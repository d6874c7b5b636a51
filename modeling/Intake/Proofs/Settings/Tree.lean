import Intake.Settings.Layers

/-!
# Trees: what a path changes

What a path puts under the name it begins with depends on what stood under that name, and nothing else changes
(`Node.lookup_setPath`). So a path through a field changes that field and no other (`Node.field?_setPath_cons`), and a table that is
put under a section gives each of its fields the last value that it has for it (`Node.field?_setPath_table`).
-/

namespace Intake

namespace Node

/-! ## Entries -/

theorem lookup_cons_ite {α β : Type} [BEq α] [LawfulBEq α] [DecidableEq α] (name : α) (b : β) (es : List (α × β)) (key : α) :
    ((name, b) :: es).lookup key = if key = name then some b else es.lookup key := by
  rw [List.lookup_cons]
  by_cases h : key = name
  · rw [if_pos h, beq_iff_eq.2 h]
  · rw [if_neg h, beq_eq_false_iff_ne.2 h]

theorem lookup_putEntry (name : String) (n : Node) (es : List (String × Node)) (key : String) :
    (putEntry name n es).lookup key = if key = name then some n else es.lookup key := by
  induction es with
  | nil => exact lookup_cons_ite name n [] key
  | cons e es ih =>
    obtain ⟨k, m⟩ := e
    unfold putEntry
    by_cases hk : k = name
    · rw [if_pos hk, lookup_cons_ite, lookup_cons_ite, hk]
      by_cases h : key = name
      · rw [if_pos h, if_pos h]
      · rw [if_neg h, if_neg h, if_neg h]
    · rw [if_neg hk, lookup_cons_ite, lookup_cons_ite, ih]
      by_cases h : key = k
      · rw [if_pos h, if_pos h, if_neg (h ▸ hk)]
      · rw [if_neg h, if_neg h]

@[simp] theorem entries_withEntries (es : List (String × Node)) (n : Node) : (n.withEntries es).entries = es := by
  cases n <;> rfl

def isTable : Node → Bool
  | .table .. => true
  | _ => false

def isScalar : Node → Bool
  | .scalar .. => true
  | _ => false

@[simp] theorem isTable_withEntries (es : List (String × Node)) (n : Node) : (n.withEntries es).isTable = true := by
  cases n <;> rfl

/-- What a path puts under the name it begins with, by what stands there. -/
def put (old : Option Node) : List Step → Node → Node
  | [], .table _ es => setAll (old.getD (.table none [])) es
  | [], n => n
  | path, n => (old.getD nothing).setPath path n

theorem put_of_isScalar (old : Option Node) {n : Node} (h : n.isScalar = true) : put old [] n = n := by
  cases n with
  | scalar o v => rfl
  | list o ns => cases h
  | table o es => cases h

theorem put_cons (old : Option Node) (step : Step) (path : List Step) (n : Node) :
    put old (step :: path) n = (old.getD nothing).setPath (step :: path) n := rfl

theorem setPath_entry (root : Node) (name : String) (path : List Step) (n : Node) :
    root.setPath (.entry name :: path) n =
      root.withEntries (putEntry (lowerText name) (put (root.entries.lookup (lowerText name)) path n) root.entries) := by
  cases path with
  | nil => cases n <;> simp only [setPath, set, put]
  | cons step path => simp only [setPath, put]

/-- A path changes what stands under the name it begins with, and nothing else. -/
theorem lookup_setPath (root : Node) (name : String) (path : List Step) (n : Node) (key : String) :
    (root.setPath (.entry name :: path) n).entries.lookup key =
      if key = lowerText name then some (put (root.entries.lookup (lowerText name)) path n) else root.entries.lookup key := by
  rw [setPath_entry, entries_withEntries, lookup_putEntry]

theorem isTable_setPath (root : Node) (name : String) (path : List Step) (n : Node) :
    (root.setPath (.entry name :: path) n).isTable = true := by
  rw [setPath_entry, isTable_withEntries]

/-- The section of a name; a section that is not there has no fields. -/
def part (t : Node) (name : String) : Node := (t.entries.lookup name).getD nothing

/-- What stands under the name of a field in its section. -/
def field? (t : Node) (path : String × String) : Option Node := (t.part path.1).entries.lookup path.2

theorem part_setPath (t : Node) (name : String) (path : List Step) (n : Node) (key : String) :
    (t.setPath (.entry name :: path) n).part key =
      if key = lowerText name then put (t.entries.lookup (lowerText name)) path n else t.part key := by
  unfold part
  rw [lookup_setPath]
  split <;> rfl

theorem isTable_of_part {t : Node} {name : String} (h : (t.part name).isTable = true) :
    ∀ n, t.entries.lookup name = some n → n.isTable = true := by
  intro n hn
  rw [part, hn] at h
  exact h

/-- Only a table has fields. -/
theorem isTable_of_field? {t n : Node} {path : String × String} (h : t.field? path = some n) : (t.part path.1).isTable = true := by
  unfold field? at h
  cases hpart : t.part path.1 with
  | scalar o v => rw [hpart] at h; cases h
  | list o ns => rw [hpart] at h; cases h
  | table o es => rfl

/-- A path through a field changes that field, and no other. -/
theorem field?_setPath_cons (t : Node) (a b : String) (path : List Step) (n : Node) (field : String × String) :
    (t.setPath (.entry a :: .entry b :: path) n).field? field =
      if field = (lowerText a, lowerText b) then some (put (t.field? field) path n) else t.field? field := by
  unfold field?
  rw [part_setPath, put_cons]
  by_cases ha : field.1 = lowerText a
  · rw [if_pos ha, lookup_setPath, ← ha]
    by_cases hb : field.2 = lowerText b
    · rw [if_pos hb, if_pos (by rw [← hb]), ← hb]
      rfl
    · rw [if_neg hb, if_neg fun hab => hb (congrArg Prod.snd hab)]
      rfl
  · rw [if_neg ha, if_neg fun hab => ha (congrArg Prod.fst hab)]

/-- A scalar that is put into a field. -/
theorem field?_setPath_scalar (t : Node) (a b : String) {n : Node} (h : n.isScalar = true) (path : String × String) :
    (t.setPath [.entry a, .entry b] n).field? path = if path = (lowerText a, lowerText b) then some n else t.field? path := by
  rw [field?_setPath_cons, put_of_isScalar _ h]

end Node

end Intake
