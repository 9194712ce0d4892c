/-
Documents are read back from their text.

Nothing is said here of what the digits of a double are read as, and of
several members with one key the reader would keep one, though objects are
not supposed to have such members in the first place. Exact documents have
neither. They come back if they nest no deeper than the reader goes
(`Exact.parse_render`).

A document is read in front of whatever closes a value, with fuel for two
calls a character. That is what the induction carries (`Rereads`): an array
hands it to its items, an object to its members, which are read one behind
the other with one call less each time.
-/
import Intake.Proofs.Json.Token

namespace Intake.Json

-- ====================================================== members

/-- A member whose key is new comes last. -/
theorem insert_of_not_mem {key : String} {members : List (String × Json)}
    (h : key ∉ members.map Prod.fst) (value : Json) :
    insert key value members = members ++ [(key, value)] := by
  induction members with
  | nil => rfl
  | cons m rest ih =>
      rw [List.map_cons, List.mem_cons, not_or] at h
      rw [insert, if_neg (fun heq => h.1 heq.symm), ih h.2, List.cons_append]

/-- Members with new and distinct keys come one behind the other. -/
theorem foldl_insert {α : Type} (key : α → String) (value : α → Json)
    (xs : List α) :
    ∀ members : List (String × Json), (xs.map key).Nodup →
      (∀ x ∈ xs, key x ∉ members.map Prod.fst) →
      xs.foldl (fun members x => insert (key x) (value x) members) members
        = members ++ xs.map fun x => (key x, value x) := by
  induction xs with
  | nil => intro members _ _; exact (List.append_nil members).symm
  | cons x xs ih =>
      intro members hnodup hnew
      rw [List.map_cons, List.nodup_cons] at hnodup
      rw [List.foldl_cons, insert_of_not_mem (hnew x List.mem_cons_self),
        ih _ hnodup.2, List.map_cons, List.append_assoc, List.singleton_append]
      intro y hy
      rw [List.map_append, List.mem_append, not_or]
      refine ⟨hnew y (List.mem_cons_of_mem _ hy), ?_⟩
      intro hkey
      have heq : key y = key x := List.mem_singleton.mp hkey
      have hmem : key y ∈ xs.map key := List.mem_map_of_mem hy
      exact hnodup.1 (heq ▸ hmem)

/-- Pairs with distinct keys are the members that they make. -/
theorem ofPairs_of_nodup {members : List (String × Json)}
    (h : (members.map Prod.fst).Nodup) :
    ofPairs members = .object members := by
  have hpairs :=
    foldl_insert Prod.fst Prod.snd members [] h fun _ _ => List.not_mem_nil
  rw [List.nil_append, List.map_id''] at hpairs
  · exact congrArg object hpairs
  · exact fun _ => rfl

-- ====================================================== shape

/-- Documents without doubles, in whose objects no key occurs twice. -/
inductive Exact : Json → Prop where
  | null : Exact .null
  | bool (b : Bool) : Exact (.bool b)
  | int (i : Int) (fits : fitsInteger i) : Exact (.number (.int i fits))
  | text (s : String) : Exact (.text s)
  | array {items : List Json} (h : ∀ j ∈ items, Exact j) : Exact (.array items)
  | object {members : List (String × Json)}
      (hkeys : (members.map Prod.fst).Nodup)
      (h : ∀ m ∈ members, Exact m.2) : Exact (.object members)

mutual

/-- How deep arrays and objects are nested. -/
def depth : Json → Nat
  | .null => 0
  | .bool _ => 0
  | .number _ => 0
  | .text _ => 0
  | .array items => depthOfItems items + 1
  | .object members => depthOfMembers members + 1

/-- How deep the deepest item is nested. -/
def depthOfItems : List Json → Nat
  | [] => 0
  | j :: rest => max (depth j) (depthOfItems rest)

/-- How deep the deepest member is nested. -/
def depthOfMembers : List (String × Json) → Nat
  | [] => 0
  | (_, j) :: rest => max (depth j) (depthOfMembers rest)

end

/-- Items stay within a depth if each of them does. -/
theorem depthOfItems_le {items : List Json} {n : Nat} :
    depthOfItems items ≤ n ↔ ∀ j ∈ items, depth j ≤ n := by
  induction items with
  | nil =>
      exact ⟨fun _ _ h => absurd h List.not_mem_nil, fun _ => Nat.zero_le n⟩
  | cons j items ih => rw [depthOfItems, List.forall_mem_cons, Nat.max_le, ih]

/-- Members stay within a depth if each of them does. -/
theorem depthOfMembers_le {members : List (String × Json)} {n : Nat} :
    depthOfMembers members ≤ n ↔ ∀ m ∈ members, depth m.2 ≤ n := by
  induction members with
  | nil =>
      exact ⟨fun _ _ h => absurd h List.not_mem_nil, fun _ => Nat.zero_le n⟩
  | cons m members ih =>
      rw [depthOfMembers, List.forall_mem_cons, Nat.max_le, ih]

-- ====================================================== beginnings

/-- Nothing is skipped where no blank comes first. -/
theorem skipBlanks_cons {c : Char} (h : isBlank c = false) (cs : List Char) :
    skipBlanks (c :: cs) = c :: cs := by
  rw [skipBlanks, List.dropWhile_cons, h]
  rfl

/-- A character that an integer begins with. -/
def beginsInteger (c : Char) : Bool := c == '-' || c.isDigit

/-- A character that integers begin with is none that they do not. -/
theorem ne_of_beginsInteger {c d : Char} (hc : beginsInteger c = true)
    (hd : beginsInteger d = false) : c ≠ d := by
  rintro rfl
  exact Bool.false_ne_true (hd.symm.trans hc)

/-- The text of an integer begins like one. -/
theorem render_int_head {i : Int} (fits : fitsInteger i) :
    ∃ c cs, (Number.render (.int i fits)).toList = c :: cs
      ∧ beginsInteger c = true := by
  cases i with
  | ofNat n =>
      rw [render_ofNat]
      cases hd : Nat.toDigits 10 n with
      | nil => exact absurd hd Nat.toDigits_ne_nil
      | cons c cs =>
          have hc : c.isDigit = true :=
            Nat.isDigit_of_mem_toDigits (by decide) (by decide)
              (hd ▸ List.mem_cons_self)
          exact ⟨c, cs, rfl, Bool.or_eq_true_iff.mpr (.inr hc)⟩
  | negSucc n => exact ⟨'-', _, render_negSucc fits, rfl⟩

/-- Integers do not begin with a blank. -/
theorem isBlank_of_beginsInteger {c : Char} (h : beginsInteger c = true) :
    isBlank c = false := by
  have hne (d : Char) (hd : beginsInteger d = false) : (c == d) = false :=
    beq_false_of_ne (ne_of_beginsInteger h hd)
  rw [isBlank, hne ' ' rfl, hne '\t' rfl, hne '\n' rfl, hne '\r' rfl]
  rfl

/-- The text of a document begins with no blank, and not like the end of an
array. -/
theorem Exact.write_head {j : Json} (h : Exact j) :
    ∃ c cs, write j = c :: cs ∧ isBlank c = false ∧ c ≠ ']' := by
  cases h with
  | null => exact ⟨_, _, rfl, by decide, by decide⟩
  | bool b => cases b <;> exact ⟨_, _, rfl, by decide, by decide⟩
  | int i fits =>
      obtain ⟨c, cs, htext, hc⟩ := render_int_head fits
      exact
        ⟨c, cs, htext, isBlank_of_beginsInteger hc, ne_of_beginsInteger hc rfl⟩
  | text s => exact ⟨_, _, rfl, by decide, by decide⟩
  | @array items h => cases items <;> exact ⟨_, _, rfl, by decide, by decide⟩
  | @object members hkeys h =>
      cases members <;> exact ⟨_, _, rfl, by decide, by decide⟩

/-- What begins like an integer is read as a number. -/
theorem readValue_number {c : Char} (hc : beginsInteger c = true)
    (fuel limit : Nat) (cs : List Char) :
    readValue (fuel + 1) limit (c :: cs)
      = (readNumber (c :: cs)).map fun (n, rest) => (.number n, rest) := by
  have hne (d : Char) (ds : List Char) (hd : beginsInteger d = false)
      (h : skipBlanks (c :: cs) = d :: ds) : False := by
    rw [skipBlanks_cons (isBlank_of_beginsInteger hc)] at h
    exact ne_of_beginsInteger hc hd (List.cons.inj h).1
  rw [readValue.eq_def]
  simp only
  split
  · next h =>
      rw [skipBlanks_cons (isBlank_of_beginsInteger hc)] at h
      cases h
  · next h => exact (hne _ _ rfl h).elim
  · next h => exact (hne _ _ rfl h).elim
  · next h => exact (hne _ _ rfl h).elim
  · next h => exact (hne _ _ rfl h).elim
  · next h => exact (hne _ _ rfl h).elim
  · next h => exact (hne _ _ rfl h).elim
  · next h =>
      rw [skipBlanks_cons (isBlank_of_beginsInteger hc)] at h
      cases h
      rfl

-- ====================================================== reading

/-- The document is read from its text in front of what closes a value. -/
def Rereads (j : Json) : Prop :=
  ∀ fuel limit rest, 2 * (write j).length ≤ fuel → j.depth ≤ limit
    → Closes rest →
    readValue fuel limit (write j ++ rest) = some (j, rest)

/-- What is written of further items closes the value in front of them. -/
theorem closes_writeItems (items : List Json) (rest : List Char) :
    Closes (writeItems items ++ rest) := by
  intro c hc
  cases items with
  | nil =>
      cases hc
      exact .inr (.inl rfl)
  | cons j items =>
      cases hc
      exact .inl rfl

/-- What is written of further members closes the value in front of them. -/
theorem closes_writeMembers (members : List (String × Json))
    (rest : List Char) :
    Closes (writeMembers members ++ rest) := by
  intro c hc
  cases members with
  | nil =>
      cases hc
      exact .inr (.inr rfl)
  | cons m members =>
      cases hc
      exact .inl rfl

/-- Items are read back one behind the other, if each of them is. -/
theorem readItems_write {items : List Json} (h : ∀ j ∈ items, Rereads j) :
    ∀ {j : Json}, Rereads j → ∀ fuel limit : Nat,
      2 * (write j ++ writeItems items).length ≤ fuel
        → (∀ x ∈ j :: items, x.depth ≤ limit) →
      ∀ rest, readItems fuel limit (write j ++ writeItems items ++ rest)
        = some (j :: items, rest) := by
  induction items with
  | nil =>
      intro j hj fuel limit hfuel hdepth rest
      rw [writeItems, List.length_append, List.length_singleton] at hfuel
      obtain ⟨fuel, rfl⟩ :=
        Nat.exists_eq_add_one_of_ne_zero (show fuel ≠ 0 by omega)
      rw [List.append_assoc, readItems,
        hj fuel limit _ (by omega) (hdepth j List.mem_cons_self)
          (closes_writeItems [] rest)]
      rfl
  | cons x items ih =>
      intro j hj fuel limit hfuel hdepth rest
      rw [List.forall_mem_cons] at h hdepth
      rw [writeItems, List.length_append, List.length_cons] at hfuel
      obtain ⟨fuel, rfl⟩ :=
        Nat.exists_eq_add_one_of_ne_zero (show fuel ≠ 0 by omega)
      rw [List.append_assoc, readItems,
        hj fuel limit _ (by omega) hdepth.1
          (closes_writeItems (x :: items) rest)]
      have hrest := ih h.2 h.1 fuel limit (by omega) hdepth.2 rest
      rw [writeItems, List.cons_append]
      simp only [skipBlanks_cons (c := ',') rfl, hrest]
      rfl

/-- Members are read back one behind the other, if each of them is. -/
theorem readMembers_write {members : List (String × Json)}
    (h : ∀ m ∈ members, Rereads m.2) :
    ∀ {key : String} {j : Json}, Rereads j → ∀ fuel limit : Nat,
      2 * (quoted key ++ ':' :: (write j ++ writeMembers members)).length
        ≤ fuel →
      (∀ m ∈ (key, j) :: members, m.2.depth ≤ limit) →
      ∀ rest, readMembers fuel limit
          (quoted key ++ ':' :: (write j ++ writeMembers members) ++ rest)
        = some ((key, j) :: members, rest) := by
  induction members with
  | nil =>
      intro key j hj fuel limit hfuel hdepth rest
      rw [writeMembers, List.length_append, List.length_cons,
        List.length_append, List.length_singleton] at hfuel
      obtain ⟨fuel, rfl⟩ :=
        Nat.exists_eq_add_one_of_ne_zero (show fuel ≠ 0 by omega)
      have hread := hj fuel limit _ (by omega) (hdepth _ List.mem_cons_self)
        (closes_writeMembers [] rest)
      rw [List.append_assoc, quoted_append, List.cons_append,
        List.append_assoc, readMembers]
      simp only [skipBlanks_cons (c := '"') rfl, readString_quoted,
        skipBlanks_cons (c := ':') rfl, hread]
      rfl
  | cons m members ih =>
      obtain ⟨key', j'⟩ := m
      intro key j hj fuel limit hfuel hdepth rest
      rw [List.forall_mem_cons] at h hdepth
      rw [writeMembers, List.length_append, List.length_cons,
        List.length_append, List.length_cons] at hfuel
      obtain ⟨fuel, rfl⟩ :=
        Nat.exists_eq_add_one_of_ne_zero (show fuel ≠ 0 by omega)
      have hread := hj fuel limit _ (by omega) hdepth.1
        (closes_writeMembers ((key', j') :: members) rest)
      have hrest := ih h.2 (j := j') h.1 fuel limit (by omega) hdepth.2 rest
      rw [List.append_assoc, quoted_append, List.cons_append,
        List.append_assoc, readMembers]
      simp only [skipBlanks_cons (c := '"') rfl, readString_quoted,
        skipBlanks_cons (c := ':') rfl, hread]
      rw [writeMembers, List.cons_append]
      simp only [skipBlanks_cons (c := ',') rfl, hrest]
      rfl

/-- Every document takes some fuel. -/
theorem Exact.exists_fuel {j : Json} (h : Exact j) {fuel : Nat}
    (hfuel : 2 * (write j).length ≤ fuel) : ∃ n, fuel = n + 1 := by
  obtain ⟨c, cs, hwrite, -⟩ := h.write_head
  rw [hwrite, List.length_cons] at hfuel
  exact Nat.exists_eq_add_one_of_ne_zero (by omega)

/-- An exact document is read back from its text. -/
theorem Exact.rereads {j : Json} (h : Exact j) : Rereads j := by
  induction h with
  | null =>
      intro fuel limit rest hfuel _ _
      obtain ⟨fuel, rfl⟩ := Exact.null.exists_fuel hfuel
      rfl
  | bool b =>
      intro fuel limit rest hfuel _ _
      obtain ⟨fuel, rfl⟩ := (Exact.bool b).exists_fuel hfuel
      cases b <;> rfl
  | int i fits =>
      intro fuel limit rest hfuel _ hrest
      obtain ⟨fuel, rfl⟩ := (Exact.int i fits).exists_fuel hfuel
      obtain ⟨c, cs, htext, hc⟩ := render_int_head fits
      have hread := readNumber_int fits hrest
      rw [htext, List.cons_append] at hread
      rw [write, htext, List.cons_append, readValue_number hc, hread]
      rfl
  | text s =>
      intro fuel limit rest hfuel _ _
      obtain ⟨fuel, rfl⟩ := (Exact.text s).exists_fuel hfuel
      rw [write, quoted_append, readValue.eq_def]
      simp only [skipBlanks_cons (c := '"') rfl, readString_quoted]
      rfl
  | @array items h ih =>
      intro fuel limit rest hfuel hdepth _
      obtain ⟨fuel, rfl⟩ := (Exact.array h).exists_fuel hfuel
      rw [depth] at hdepth
      obtain ⟨limit, rfl⟩ :=
        Nat.exists_eq_add_one_of_ne_zero (show limit ≠ 0 by omega)
      cases items with
      | nil => rfl
      | cons x items =>
          have hdepth := depthOfItems_le.mp (Nat.le_of_succ_le_succ hdepth)
          rw [List.forall_mem_cons] at h ih
          rw [write, List.length_cons] at hfuel
          have hread :=
            readItems_write ih.2 ih.1 fuel limit (by omega) hdepth rest
          obtain ⟨c, cs, hhead, hblank, hc⟩ := h.1.write_head
          rw [write, List.cons_append, readValue.eq_def]
          simp only [skipBlanks_cons (c := '[') rfl, hread]
          rw [hhead, List.cons_append, List.cons_append,
            skipBlanks_cons hblank]
          split
          · next heq => exact absurd (List.cons.inj heq).1 hc
          · rfl
  | @object members hkeys h ih =>
      intro fuel limit rest hfuel hdepth _
      obtain ⟨fuel, rfl⟩ := (Exact.object hkeys h).exists_fuel hfuel
      rw [depth] at hdepth
      obtain ⟨limit, rfl⟩ :=
        Nat.exists_eq_add_one_of_ne_zero (show limit ≠ 0 by omega)
      cases members with
      | nil => rfl
      | cons m members =>
          obtain ⟨key, j⟩ := m
          have hdepth := depthOfMembers_le.mp (Nat.le_of_succ_le_succ hdepth)
          rw [List.forall_mem_cons] at ih
          rw [write, List.length_cons] at hfuel
          have hread :=
            readMembers_write ih.2 (j := j) ih.1 fuel limit
              (by omega) hdepth rest
          rw [write, List.cons_append, readValue.eq_def]
          simp only [skipBlanks_cons (c := '\x7b') rfl, hread]
          rw [List.append_assoc, quoted_append, skipBlanks_cons rfl,
            ← ofPairs_of_nodup hkeys]
          rfl

/-- An exact document that the reader can follow is read back from its text. -/
theorem Exact.parse_render {j : Json} (h : Exact j)
    (hdepth : j.depth ≤ nestingLimit) :
    parse j.render = some j := by
  have hread :=
    h.rereads (2 * (write j).length + 2) nestingLimit []
      (Nat.le_add_right _ 2) hdepth
    nofun
  rw [List.append_nil] at hread
  rw [parse, render, String.toList_ofList]
  simp only [hread]
  rfl

-- ====================================================== one line

/-- Line feeds are written as escapes. -/
theorem not_mem_escape (c : Char) : '\n' ∉ escape c := by
  have hdigit (n : Nat) : '\n' ≠ hexDigit n :=
    (Nat.digitChar_ne '\n' (by decide)).symm
  rw [escape]
  iterate 7
    split
    · decide
  split
  · simp [hdigit]
  · next hfeed _ _ _ => exact fun h => hfeed (List.mem_singleton.mp h).symm

/-- A string is written on one line. -/
theorem not_mem_quoted (s : String) : '\n' ∉ quoted s := by
  intro h
  rw [quoted, List.mem_append, List.mem_cons, List.mem_flatMap] at h
  rcases h with (h | ⟨c, -, h⟩) | h
  · exact absurd h (by decide)
  · exact not_mem_escape c h
  · exact absurd h (by decide)

/-- An integer is written on one line. -/
theorem not_mem_render_int {i : Int} (fits : fitsInteger i) :
    '\n' ∉ (Number.render (.int i fits)).toList := by
  have hdigits (n : Nat) : '\n' ∉ Nat.toDigits 10 n := fun h =>
    absurd (Nat.isDigit_of_mem_toDigits (by decide) (by decide) h) (by decide)
  cases i with
  | ofNat n =>
      rw [render_ofNat]
      exact hdigits n
  | negSucc n =>
      rw [render_negSucc, List.mem_cons, not_or]
      exact ⟨by decide, hdigits (n + 1)⟩

/-- Items are written on one line if each of them is. -/
theorem not_mem_writeItems {items : List Json}
    (h : ∀ j ∈ items, '\n' ∉ write j) :
    '\n' ∉ writeItems items := by
  induction items with
  | nil => decide
  | cons j items ih =>
      rw [List.forall_mem_cons] at h
      rw [writeItems, List.mem_cons, List.mem_append, not_or, not_or]
      exact ⟨by decide, h.1, ih h.2⟩

/-- Members are written on one line if each of them is. -/
theorem not_mem_writeMembers {members : List (String × Json)}
    (h : ∀ m ∈ members, '\n' ∉ write m.2) : '\n' ∉ writeMembers members := by
  induction members with
  | nil => decide
  | cons m members ih =>
      obtain ⟨key, j⟩ := m
      rw [List.forall_mem_cons] at h
      rw [writeMembers, List.mem_cons, List.mem_append, List.mem_cons,
        List.mem_append]
      simp only [not_or]
      exact ⟨by decide, not_mem_quoted key, by decide, h.1, ih h.2⟩

/-- The text of a document is one line. -/
theorem Exact.not_mem_write {j : Json} (h : Exact j) : '\n' ∉ write j := by
  induction h with
  | null => decide
  | bool b => cases b <;> decide
  | int i fits => exact not_mem_render_int fits
  | text s => exact not_mem_quoted s
  | @array items h ih =>
      have hitems := not_mem_writeItems ih
      cases items with
      | nil => decide
      | cons j items =>
          rw [writeItems, List.mem_cons, not_or] at hitems
          rw [write, List.mem_cons, not_or]
          exact ⟨by decide, hitems.2⟩
  | @object members hkeys h ih =>
      have hmembers := not_mem_writeMembers ih
      cases members with
      | nil => decide
      | cons m members =>
          rw [writeMembers, List.mem_cons, not_or] at hmembers
          rw [write, List.mem_cons, not_or]
          exact ⟨by decide, hmembers.2⟩

/-- The members of an object end with its brace. -/
theorem writeMembers_brace (members : List (String × Json)) :
    ∃ cs, writeMembers members = cs ++ ['\x7d'] := by
  induction members with
  | nil => exact ⟨[], rfl⟩
  | cons m members ih =>
      obtain ⟨key, j⟩ := m
      obtain ⟨cs, hcs⟩ := ih
      refine ⟨',' :: (quoted key ++ ':' :: (write j ++ cs)), ?_⟩
      rw [writeMembers, hcs]
      simp only [List.cons_append, List.append_assoc]

/-- The text of an object ends with its brace. -/
theorem write_object_brace (members : List (String × Json)) :
    ∃ cs, write (.object members) = cs ++ ['\x7d'] := by
  cases members with
  | nil => exact ⟨['\x7b'], rfl⟩
  | cons m members =>
      obtain ⟨key, j⟩ := m
      obtain ⟨cs, hcs⟩ := writeMembers_brace members
      refine ⟨'\x7b' :: (quoted key ++ ':' :: (write j ++ cs)), ?_⟩
      rw [write, hcs]
      simp only [List.cons_append, List.append_assoc]

end Intake.Json
