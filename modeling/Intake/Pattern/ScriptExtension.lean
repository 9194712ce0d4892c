/-
Characters that scripts use and that belong to another one, by the script
that uses them, with ranges of code points in hexadecimal.

Nearly all of them belong to the common and the inherited script. Those
two have no such characters themselves, and a character of theirs that
others are known to use no longer counts as one of theirs.
-/
namespace Intake.Pattern

/-- The ranges that each script uses from elsewhere, under its first name. -/
def scriptExtensionTable : List (List String × String) :=
  [(["adlm"],
    "61F 640 204F 2E41"),
   (["aghb"],
    "304-35E/2D"),
   (["arab"],
    "60C 61B 61F 640 64B-655 670 204F 2E41 FD3E-FD3F 102E0-102FB"),
   (["armn"],
    "308"),
   (["avst"],
    "B7 2E30-2E31"),
   (["beng"],
    "2BC 951-952 964-965 1CD0 1CD2 1CD5-1CD6 1CD8-1CEA/9 1CED 1CF2 1CF5-1CF7
     A8F1"),
   (["bopo"],
    "2C7 2C9-2CB 2D9 3001-3003 3008-3011 3013-301F 302A-302D 3030 3037 30FB
     FE45-FE46 FF61-FF65"),
   (["bugi"],
    "A9CF"),
   (["buhd"],
    "1735-1736"),
   (["cakm"],
    "9E6-9EF 1040-1049"),
   (["cari"],
    "B7 205A 205D 2E31"),
   (["cher"],
    "300-302 304 30B-30C 323-324 330-331"),
   (["copt"],
    "B7 300 304-305 307 374-375 2E17 102E0-102FB"),
   (["cpmn"],
    "10100-10101"),
   (["cprt"],
    "10100-10102 10107-10133 10137-1013F"),
   (["cyrl"],
    "2BC 300-302 304-308/2 30B 311 485-486 1DF8 2E43"),
   (["deva"],
    "2BC 951-952 964-965 1CD0-1CF6 1CF8-1CF9 20F0 A830-A839"),
   (["dogr"],
    "964-96F A830-A839"),
   (["dupl"],
    "B7 307-308 30A 323-324 2E3C 1BCA0-1BCA3"),
   (["elba"],
    "B7 305"),
   (["ethi"],
    "30E"),
   (["gara"],
    "60C 61B 61F"),
   (["geor"],
    "B7 589 10FB 205A 2E31"),
   (["glag"],
    "B7 303 305 484 487 589 10FB 205A 2E43 A66F"),
   (["gong"],
    "B7 964-965"),
   (["gonm"],
    "964-965"),
   (["goth"],
    "B7 304-305 308 331"),
   (["gran"],
    "951-952 964-965 BE6-BF3 1CD0 1CD2-1CD3 1CF2-1CF4 1CF8-1CF9 20F0 1133B
     11FD0-11FD1 11FD3"),
   (["grek"],
    "B7 300-301 304-308/2 313 342 345 374 1DC0-1DC1 205D"),
   (["gujr"],
    "951-952 964-965 A830-A839"),
   (["gukh"],
    "965"),
   (["guru"],
    "951-952 964-965 A830-A839"),
   (["han"],
    "B7 2FF0-2FFF 3001-3003 3006 3008-3011 3013-301F 302A-302D 3030 3037
     303C-303F 30FB 3190-319F 31C0-31E5 31EF 3220-3247 3280-32B0 32C0-32CB 32FF
     3358-3370 337B-337F 33E0-33FE A700-A707 FE45-FE46 FF61-FF65 1D360-1D371
     1F250-1F251"),
   (["hang"],
    "3001-3003 3008-3011 3013-301F 3030 3037 30FB FE45-FE46 FF61-FF65"),
   (["hano"],
    "1735-1736"),
   (["hebr"],
    "307-308"),
   (["hira"],
    "3001-3003 3008-3011 3013-301F 3030-3035 3037 303C-303D 3099-309C 30A0
     30FB-30FC FE45-FE46 FF61-FF65 FF70 FF9E-FF9F"),
   (["hung"],
    "205A 205D 2E31 2E41"),
   (["java"],
    "A9CF"),
   (["kali"],
    "A92E"),
   (["kana"],
    "305 323 3001-3003 3008-3011 3013-301F 3030-3035 3037 303C-303D 3099-309C
     30A0 30FB-30FC FE45-FE46 FF61-FF65 FF70 FF9E-FF9F"),
   (["khoj"],
    "AE6-AEF A830-A839"),
   (["knda"],
    "951-952 964-965 1CD0 1CD2-1CD3 1CDA 1CF2 1CF4 A830-A835"),
   (["kthi"],
    "966-96F 2E31 A830-A839"),
   (["latn"],
    "B7 2BC 2C7 2C9-2CB 2CD 2D7 2D9 300-30E 310-311 313 320 323-325 32D-32E
     330-331 358 35E 363-36F 485-486 951-952 10FB 1DF8 202F 20F0 2E17 A700-A707
     A92E"),
   (["limb"],
    "965"),
   (["lina"],
    "10107-10133"),
   (["linb"],
    "10100-10102 10107-10133 10137-1013F"),
   (["lisu"],
    "2BC 2CD 300A-300B"),
   (["lyci"],
    "205A"),
   (["lydi"],
    "B7 2E31"),
   (["mahj"],
    "B7 964-96F A830-A839"),
   (["mand"],
    "640"),
   (["mani"],
    "640"),
   (["mero"],
    "205D"),
   (["mlym"],
    "951-952 964-965 1CDA 1CF2 A830-A832"),
   (["modi"],
    "A830-A839"),
   (["mong"],
    "1802-1803 1805 202F 3001-3002 3008-300B"),
   (["mult"],
    "A66-A6F"),
   (["mymr"],
    "A92E"),
   (["nand"],
    "964-965 CE6-CEF 1CE9 1CF2 1CFA A830-A835"),
   (["nko"],
    "60C 61B 61F FD3E-FD3F"),
   (["onao"],
    "964-965"),
   (["orkh"],
    "205A 2E30"),
   (["orya"],
    "951-952 964-965 1CDA 1CF2"),
   (["osge"],
    "301 304 30B 358"),
   (["ougr"],
    "640 10AF2"),
   (["perm"],
    "B7 300 306-308 313 483"),
   (["phag"],
    "1802-1803 1805 202F 3002"),
   (["phlp"],
    "640"),
   (["rohg"],
    "60C 61B 61F 640 6D4"),
   (["runr"],
    "16EB-16ED"),
   (["samr"],
    "2E31"),
   (["shaw"],
    "B7"),
   (["shrd"],
    "951 1CD7 1CD9 1CDC-1CDD 1CE0 A830-A835 A838"),
   (["sind"],
    "964-965 A830-A839"),
   (["sinh"],
    "964-965 1CF2"),
   (["sogd"],
    "640"),
   (["sunu"],
    "300-301 303 30D 310 32D 331"),
   (["sylo"],
    "964-965 9E6-9EF"),
   (["syrc"],
    "303-304 307-308 30A 320 323-325 32D-32E 330 60C 61B-61C 61F 640 64B-655
     670 1DF8 1DFA"),
   (["tagb"],
    "1735-1736"),
   (["takr"],
    "964-965 A830-A839"),
   (["tale"],
    "300-301 307-308 30C 1040-1049"),
   (["taml"],
    "951-952 964-965 1CDA A8F3 11301 11303 1133B-1133C"),
   (["tang"],
    "2FF0-2FFF 31EF"),
   (["telu"],
    "951-952 964-965 1CDA 1CF2"),
   (["tfng"],
    "302 304 307 309"),
   (["tglg"],
    "1735-1736"),
   (["thaa"],
    "60C 61B-61C 61F 660-669 FDF2 FDFD"),
   (["thai"],
    "2BC 2D7 303 331"),
   (["tibt"],
    "3008-300B"),
   (["tirh"],
    "951-952 964-965 1CF2 A830-A839"),
   (["todr"],
    "301-307/3 311 313 35E"),
   (["toto"],
    "2BC"),
   (["tutg"],
    "CE6-CEF 1CF2 1CF4 A830-A835 A8F1"),
   (["yezi"],
    "60C 61B 61F 660-669"),
   (["yi"],
    "3001-3002 3008-3011 3014-301B 30FB FF61-FF65")]

end Intake.Pattern
