/-
Equality of documents, and how far their digests follow it.

A table of values already seen knows a value by its digest, so equal documents
should have equal digests. Members may stand in any order for that, since the
digest takes them by key. But a number is digested as its text, and there are
two numbers that are equal and have different texts, the two zeros. `signs`
tells the signs of the zeros of a document in the order in which it is
digested. Equal documents have equal digests if and only if their zeros have
the same signs (`Proper.parallel`).

What two equal documents look like is said once: they are of one kind, the
items of arrays correspond in order (`same_cases`), and the members of objects
correspond in the order of their keys (`same_object`). The rest is induction on
the document.
-/
import Intake.Proofs.Json.Entries

namespace Intake

-- ====================================================== zeros

/-- There are two zeros. -/
theorem Binary64.eq_of_isZero {x : Binary64} (h : x.isZero = true) :
    x = ⟨0⟩ ∨ x = Binary64.negativeZero := by
  rw [isZero, Bool.and_eq_true, beq_iff_eq, beq_iff_eq, exponentField,
    fractionField, leadingBit] at h
  have hlt := x.bits.toNat_lt
  have hbits : x.bits.toNat = 0 ∨ x.bits.toNat = 0x8000000000000000 := by omega
  refine hbits.imp (fun hzero => ?_) fun hnegative => ?_
  · exact congrArg Binary64.mk (UInt64.toNat_inj.mp hzero)
  · exact congrArg Binary64.mk (UInt64.toNat_inj.mp hnegative)

namespace Json

namespace Number

variable {m n k : Number}

/-- A number equals itself. -/
theorem same_refl (n : Number) : n.same n = true := by
  cases n with
  | int i fits => exact beq_self_eq_true i
  | float x finite => simp [same, Binary64.sameNumber]

/-- Equal numbers are one number or two zeros. -/
theorem same_iff : m.same n = true ↔
    m = n ∨ ∃ x y hx hy, m = .float x hx ∧ n = .float y hy
      ∧ x.isZero = true ∧ y.isZero = true := by
  constructor
  · intro h
    cases m with
    | int i fits =>
        cases n with
        | int j fits' =>
            obtain rfl : i = j := eq_of_beq h
            exact .inl rfl
        | float y finite => cases h
    | float x finite =>
        cases n with
        | int j fits => cases h
        | float y finite' =>
            rw [same, Binary64.sameNumber, Bool.or_eq_true,
              Bool.and_eq_true] at h
            rcases h with h | ⟨hx, hy⟩
            · obtain rfl : x = y := eq_of_beq h
              exact .inl rfl
            · exact .inr ⟨x, y, finite, finite', rfl, rfl, hx, hy⟩
  · rintro (rfl | ⟨x, y, finite, finite', rfl, rfl, hx, hy⟩)
    · exact same_refl m
    · simp [same, Binary64.sameNumber, hx, hy]

/-- Equality of numbers is symmetric. -/
theorem same_symm (h : m.same n = true) : n.same m = true := by
  rw [same_iff] at h ⊢
  rcases h with rfl | ⟨x, y, hx, hy, rfl, rfl, hzero, hzero'⟩
  · exact .inl rfl
  · exact .inr ⟨y, x, hy, hx, rfl, rfl, hzero', hzero⟩

/-- Equality of numbers is transitive. -/
theorem same_trans (h : m.same n = true) (h' : n.same k = true) :
    m.same k = true := by
  rw [same_iff] at h h' ⊢
  rcases h with rfl | ⟨x, y, hx, hy, rfl, rfl, hzero, hzero'⟩
  · exact h'
  · rcases h' with rfl | ⟨y', z, hy', hz, heq, rfl, -, hzero''⟩
    · exact .inr ⟨x, y, hx, hy, rfl, rfl, hzero, hzero'⟩
    · exact .inr ⟨x, z, hx, hz, rfl, rfl, hzero, hzero''⟩

/-- The sign of a zero. -/
def signs : Number → List Bool
  | .int _ _ => []
  | .float x _ => if x.isZero then [x.isNegative] else []

end Number

-- ====================================================== signs

mutual

/-- The signs of the zeros of a document: its items in order, its members by
key. -/
def signs : Json → List Bool
  | .null => []
  | .bool _ => []
  | .number n => n.signs
  | .text _ => []
  | .array items => signsItems items
  | .object members => (byKey (signsMembers members)).flatMap Prod.snd

/-- The signs of the zeros of items, in their order. -/
def signsItems : List Json → List Bool
  | [] => []
  | x :: xs => signs x ++ signsItems xs

/-- The signs of the zeros of each member, under its key. -/
def signsMembers : List (String × Json) → List (String × List Bool)
  | [] => []
  | (k, v) :: rest => (k, signs v) :: signsMembers rest

end

/-- The signs of items are those of each, one behind the other. -/
theorem signsItems_eq (items : List Json) :
    signsItems items = items.flatMap signs := by
  induction items with
  | nil => rfl
  | cons x xs ih => rw [signsItems, ih, List.flatMap_cons]

/-- The signs of members are those of each, under its key. -/
theorem signsMembers_eq (members : List (String × Json)) :
    signsMembers members = members.map fun m => (m.1, signs m.2) := by
  induction members with
  | nil => rfl
  | cons m rest ih => rw [signsMembers, ih, List.map_cons]

/-- The digest of items is that of each, one behind the other. -/
theorem digestItems_eq (items : List Json) :
    digestItems items = items.flatMap digest := by
  induction items with
  | nil => rfl
  | cons x xs ih => rw [digestItems, ih, List.flatMap_cons]

/-- The digest of members is that of each, under its key. -/
theorem digestMembers_eq (members : List (String × Json)) :
    digestMembers members = members.map fun m => (m.1, digest m.2) := by
  induction members with
  | nil => rfl
  | cons m rest ih => rw [digestMembers, ih, List.map_cons]

/-- The signs of an object are those of its members in the order of their
keys. -/
theorem signs_object (members : List (String × Json)) :
    signs (.object members) = (byKey members).flatMap fun m => signs m.2 := by
  rw [signs, signsMembers_eq, byKey_map, List.flatMap_map]

/-- The digest of an object is that of its members in the order of their
keys. -/
theorem digest_object (members : List (String × Json)) :
    digest (.object members)
      = .count members.length
        :: (byKey members).flatMap fun m => .word m.1 :: digest m.2 := by
  rw [digest, digestMembers_eq, byKey_map, List.flatMap_map]

-- ====================================================== digests beside signs

/-- Two digests are as long as each other, and so are the signs beside them,
and the digests are the same just when the signs are. -/
structure Parallel (a b : List Mark) (s t : List Bool) : Prop where
  marks : a.length = b.length
  signs : s.length = t.length
  iff : a = b ↔ s = t

namespace Parallel

variable {a b a' b' : List Mark} {s t s' t' : List Bool}

/-- A digest goes along with itself. -/
theorem refl (a : List Mark) (s : List Bool) : Parallel a a s s :=
  ⟨rfl, rfl, iff_of_true rfl rfl⟩

/-- It does not matter which digest is the first one. -/
theorem symm (h : Parallel a b s t) : Parallel b a t s :=
  ⟨h.marks.symm, h.signs.symm, eq_comm.trans (h.iff.trans eq_comm)⟩

/-- Digests put one behind the other go along if the parts do. -/
theorem append (h : Parallel a b s t) (h' : Parallel a' b' s' t') :
    Parallel (a ++ a') (b ++ b') (s ++ s') (t ++ t') where
  marks := by rw [List.length_append, List.length_append, h.marks, h'.marks]
  signs := by rw [List.length_append, List.length_append, h.signs, h'.signs]
  iff := by
    constructor
    · intro heq
      obtain ⟨hfirst, hlast⟩ := List.append_inj heq h.marks
      rw [h.iff.mp hfirst, h'.iff.mp hlast]
    · intro heq
      obtain ⟨hfirst, hlast⟩ := List.append_inj heq h.signs
      rw [h.iff.mpr hfirst, h'.iff.mpr hlast]

/-- The same marks in front change nothing. -/
theorem prefixed (h : Parallel a b s t) (marks : List Mark) :
    Parallel (marks ++ a) (marks ++ b) s t :=
  (refl marks []).append h

/-- Digests of lists in step go along if those of the partners do. -/
theorem flatMap {α : Type} {R : α → α → Prop} {xs ys : List α}
    {f : α → List Mark} {g : α → List Bool} (h : List.Forall₂ R xs ys)
    (hR : ∀ x ∈ xs, ∀ y, R x y → Parallel (f x) (f y) (g x) (g y)) :
    Parallel (xs.flatMap f) (ys.flatMap f) (xs.flatMap g) (ys.flatMap g) := by
  induction h with
  | nil => exact refl [] []
  | cons hr _ ih =>
      rw [List.forall_mem_cons] at hR
      simp only [List.flatMap_cons]
      exact (hR.1 _ hr).append (ih hR.2)

/-- Entries are digested one after the other, each behind its key. -/
theorem entries {α : Type} {R : α → α → Prop} {xs ys : List (String × α)}
    {f : α → List Mark} {g : α → List Bool} (hkeys : Keyed xs)
    (h : List.Forall₂ (Under R) (byKey xs) (byKey ys))
    (hR : ∀ x ∈ xs, ∀ y, R x.2 y → Parallel (f x.2) (f y) (g x.2) (g y)) :
    Parallel (.count xs.length :: (byKey xs).flatMap fun x =>
      .word x.1 :: f x.2)
      (.count ys.length :: (byKey ys).flatMap fun y => .word y.1 :: f y.2)
      ((byKey xs).flatMap fun x => g x.2)
      ((byKey ys).flatMap fun y => g y.2) := by
  obtain ⟨hlength, -⟩ := (forall₂_byKey_iff hkeys).mp h
  rw [hlength]
  refine (flatMap h fun x hx y hxy => ?_).prefixed [_]
  rw [hxy.1]
  exact (hR x (mem_byKey.mp hx) y.2 hxy.2).prefixed [_]

end Parallel

/-- The texts of the two zeros differ, as their signs do. -/
theorem render_negativeZero (hx : (⟨0⟩ : Binary64).isFinite = true)
    (hy : Binary64.negativeZero.isFinite = true) :
    Parallel [.word (Number.float ⟨0⟩ hx).render]
      [.word (Number.float Binary64.negativeZero hy).render]
      (Number.float ⟨0⟩ hx).signs
        (Number.float Binary64.negativeZero hy).signs := by
  refine ⟨rfl, rfl, iff_of_false ?_ ?_⟩
  · rw [Number.render, Number.render]
    decide
  · rw [Number.signs, Number.signs]
    decide

/-- Equal numbers are written alike just when they are not zeros of different
signs. -/
theorem Number.parallel {m n : Number} (h : m.same n = true) :
    Parallel [.word m.render] [.word n.render] m.signs n.signs := by
  rcases Number.same_iff.mp h with
    rfl | ⟨x, y, hx, hy, rfl, rfl, hzero, hzero'⟩
  · exact .refl _ _
  · rcases Binary64.eq_of_isZero hzero with rfl | rfl
    · rcases Binary64.eq_of_isZero hzero' with rfl | rfl
      · exact .refl _ _
      · exact render_negativeZero hx hy
    · rcases Binary64.eq_of_isZero hzero' with rfl | rfl
      · exact (render_negativeZero hy hx).symm
      · exact .refl _ _

-- ====================================================== equal documents

/-- Documents in whose objects no key occurs twice. -/
inductive Proper : Json → Prop where
  | null : Proper .null
  | bool (b : Bool) : Proper (.bool b)
  | number (n : Number) : Proper (.number n)
  | text (s : String) : Proper (.text s)
  | array {items : List Json} (h : ∀ j ∈ items, Proper j) :
      Proper (.array items)
  | object {members : List (String × Json)} (hkeys : Keyed members)
      (h : ∀ m ∈ members, Proper m.2) : Proper (.object members)

/-- Equal documents are of one kind. -/
inductive Same : Json → Json → Prop where
  | null : Same .null .null
  | bool (b : Bool) : Same (.bool b) (.bool b)
  | number {m n : Number} (h : m.same n = true) : Same (.number m) (.number n)
  | text (s : String) : Same (.text s) (.text s)
  | array {xs ys : List Json}
      (h : List.Forall₂ (fun x y => same x y = true) xs ys) :
      Same (.array xs) (.array ys)
  | object {xs ys : List (String × Json)}
      (h : same (.object xs) (.object ys) = true) :
      Same (.object xs) (.object ys)

/-- Items are the same if they correspond in order. -/
theorem sameItems_iff {xs ys : List Json} :
    sameItems xs ys = true ↔ List.Forall₂ (fun x y => same x y = true) xs ys :=
  forall₂_iff_of_cons rfl (fun _ _ => rfl) (fun _ _ => rfl) fun _ _ _ _ => rfl

/-- Documents that are the same are of one kind, and their parts are the
same. -/
theorem same_cases {a b : Json} (h : same a b = true) : Same a b := by
  cases a with
  | null =>
      cases b with
      | null => exact .null
      | _ => cases h
  | bool x =>
      cases b with
      | bool y =>
          obtain rfl : x = y := eq_of_beq h
          exact .bool x
      | _ => cases h
  | number m =>
      cases b with
      | number n => exact .number h
      | _ => cases h
  | text s =>
      cases b with
      | text t =>
          obtain rfl : s = t := eq_of_beq h
          exact .text s
      | _ => cases h
  | array xs =>
      cases b with
      | array ys => exact .array (sameItems_iff.mp h)
      | _ => cases h
  | object xs =>
      cases b with
      | object ys => exact .object h
      | _ => cases h

/-- A value that is found is a member under its key. -/
theorem lookup_eq_some {key : String} {j : Json}
    {members : List (String × Json)} (h : lookup key members = some j) :
    (key, j) ∈ members := by
  induction members with
  | nil => cases h
  | cons m rest ih =>
      rw [lookup] at h
      split at h
      · next hkey =>
          cases h
          rw [← hkey]
          exact List.mem_cons_self
      · exact List.mem_cons_of_mem _ (ih h)

/-- A member is found if its key occurs once. -/
theorem lookup_of_mem {key : String} {j : Json}
    {members : List (String × Json)} (hkeys : Keyed members)
    (h : (key, j) ∈ members) : lookup key members = some j := by
  induction members with
  | nil => cases h
  | cons m rest ih =>
      rw [Keyed, List.map_cons, List.nodup_cons] at hkeys
      rcases List.mem_cons.mp h with rfl | h
      · exact if_pos rfl
      · have hne : m.1 ≠ key :=
          fun heq => hkeys.1 (heq ▸ List.mem_map_of_mem h)
        rw [lookup, if_neg hne, ih hkeys.2 h]

/-- Members are found in others if each has a partner under its key. -/
theorem sameMembers_iff {xs ys : List (String × Json)} :
    sameMembers xs ys = true
      ↔ ∀ x ∈ xs, ∃ j, lookup x.1 ys = some j ∧ same x.2 j = true := by
  induction xs with
  | nil => exact iff_of_true rfl nofun
  | cons x xs ih =>
      rw [sameMembers, Bool.and_eq_true, ih, List.forall_mem_cons]
      refine and_congr_left fun _ => ?_
      cases lookup x.1 ys with
      | none => exact iff_of_false Bool.false_ne_true nofun
      | some j => simp

/-- Objects are equal if and only if their members correspond in the order of
their keys. -/
theorem same_object {xs ys : List (String × Json)} (hx : Keyed xs) :
    same (.object xs) (.object ys) = true
      ↔ List.Forall₂ (Under fun x y => same x y = true) (byKey xs)
          (byKey ys) := by
  rw [same, Bool.and_eq_true, beq_iff_eq, sameMembers_iff]
  constructor
  · rintro ⟨hlength, hpartner⟩
    refine (forall₂_byKey_iff hx).mpr ⟨hlength, fun x hmem => ?_⟩
    obtain ⟨j, hj, hsame⟩ := hpartner x hmem
    exact ⟨(x.1, j), lookup_eq_some hj, rfl, hsame⟩
  · intro h
    obtain ⟨hlength, hpartner⟩ := (forall₂_byKey_iff hx).mp h
    refine ⟨hlength, fun x hmem => ?_⟩
    obtain ⟨⟨key, j⟩, hj, hkey, hsame⟩ := hpartner x hmem
    obtain rfl : x.1 = key := hkey
    exact ⟨j, lookup_of_mem (hx.of_forall₂ h) hj, hsame⟩

namespace Proper

variable {a : Json}

/-- A proper document is the same as itself. -/
theorem same_refl (ha : a.Proper) : same a a = true := by
  induction ha with
  | null => rfl
  | bool b => exact beq_self_eq_true b
  | number n => exact n.same_refl
  | text s => exact beq_self_eq_true s
  | array _ ih => exact sameItems_iff.mpr (List.forall₂_same.mpr ih)
  | object hkeys _ ih =>
      rw [same_object hkeys, List.forall₂_same]
      exact fun m hm => ⟨rfl, ih m (mem_byKey.mp hm)⟩

/-- Equality of proper documents is symmetric. -/
theorem same_symm (ha : a.Proper) :
    ∀ {b : Json}, same a b = true → same b a = true := by
  induction ha with
  | null | bool | text =>
      intro b h
      cases same_cases h
      exact h
  | number n =>
      intro b h
      cases same_cases h with
      | number hnumber => exact Number.same_symm hnumber
  | array _ ih =>
      intro b h
      cases same_cases h with
      | array hitems =>
          rw [same, sameItems_iff]
          exact (forall₂_imp_of_mem hitems fun x hx y hxy => ih x hx hxy).flip
  | object hkeys _ ih =>
      intro b h
      cases same_cases h with
      | object hmembers =>
          rw [same_object hkeys] at hmembers
          rw [same_object (hkeys.of_forall₂ hmembers)]
          exact (forall₂_imp_of_mem hmembers fun x hx y hxy =>
            ⟨hxy.1.symm, ih x (mem_byKey.mp hx) hxy.2⟩).flip

/-- Equality of proper documents is transitive. -/
theorem same_trans (ha : a.Proper) :
    ∀ {b c : Json}, same a b = true → same b c = true → same a c = true := by
  induction ha with
  | null | bool | text =>
      intro b c h h'
      cases same_cases h
      exact h'
  | number n =>
      intro b c h h'
      cases same_cases h with
      | number hnumber =>
          cases same_cases h' with
          | number hnumber' => exact Number.same_trans hnumber hnumber'
  | array _ ih =>
      intro b c h h'
      cases same_cases h with
      | array hitems =>
          cases same_cases h' with
          | array hitems' =>
              rw [same, sameItems_iff]
              exact forall₂_trans_of_mem hitems hitems' fun x hx y z => ih x hx
  | object hkeys _ ih =>
      intro b c h h'
      cases same_cases h with
      | object hmembers =>
          cases same_cases h' with
          | object hmembers' =>
              rw [same_object hkeys] at hmembers ⊢
              rw [same_object (hkeys.of_forall₂ hmembers)] at hmembers'
              exact forall₂_trans_of_mem hmembers hmembers'
                  fun x hx y z hxy hyz =>
                ⟨hxy.1.trans hyz.1, ih x (mem_byKey.mp hx) hxy.2 hyz.2⟩

/-- Equal documents have equal digests just when the zeros in them have the
same signs. -/
theorem parallel (ha : a.Proper) :
    ∀ {b : Json}, same a b = true
      → Parallel a.digest b.digest a.signs b.signs := by
  induction ha with
  | null | bool | text =>
      intro b h
      cases same_cases h
      exact .refl _ _
  | number n =>
      intro b h
      cases same_cases h with
      | number hnumber => exact Number.parallel hnumber
  | array _ ih =>
      intro b h
      cases same_cases h with
      | array hitems =>
          rw [digest, digest, digestItems_eq, digestItems_eq, signs, signs,
            signsItems_eq, signsItems_eq, hitems.length_eq]
          exact (Parallel.flatMap hitems fun x hx y => ih x hx).prefixed [_]
  | object hkeys _ ih =>
      intro b h
      cases same_cases h with
      | object hmembers =>
          rw [same_object hkeys] at hmembers
          rw [digest_object, digest_object, signs_object, signs_object]
          exact .entries hkeys hmembers fun x hx y => ih x hx

end Proper

end Json

end Intake
