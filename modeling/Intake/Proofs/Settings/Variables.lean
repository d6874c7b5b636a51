import Mathlib.Data.List.Nodup
import Intake.Proofs.Settings.Environment

/-!
# Variables: what becomes of the text of an environment variable

The kind of a value from the environment is guessed before it is known which setting it is for, and a setting that is a text takes
the text of the guess (`Layers.shown`). So `007` arrives as `7`, and `TRUE` as `true`; what looks neither like a truth value nor
like a number arrives as it is. Which text the variable has does not matter to whether the settings can be loaded
(`Settings.variable_shown`).
-/

namespace Intake

/-! ## Trees that differ in one field -/

namespace Node

/-- The second tree has `n` in a field and is the first one beside it, except that the section of the field is a table. -/
structure Beside (path : String × String) (n : Node) (t t' : Node) : Prop where
  given : t'.field? path = some n
  isTable : (t'.part path.1).isTable = true
  fields : ∀ field, field ≠ path.2 → t'.field? (path.1, field) = t.field? (path.1, field)
  parts : ∀ name, name ≠ path.1 → t'.entries.lookup name = t.entries.lookup name

/-- Whether a path does not lead through a field. -/
def leadsElsewhere (path : String × String) : List Step → Bool
  | .entry a :: .entry b :: _ => decide ((lowerText a, lowerText b) ≠ path)
  | .entry a :: _ => decide (lowerText a ≠ path.1)
  | _ => false

variable {path : String × String} {n m : Node} {t t' t'' : Node}

theorem beside_setPath (t : Node) (a b : String) {n : Node} (h : n.isScalar = true) :
    Beside (lowerText a, lowerText b) n t (t.setPath [.entry a, .entry b] n) := by
  refine ⟨?_, ?_, fun field hfield => ?_, fun name hname => ?_⟩
  · rw [field?_setPath_scalar t a b h, if_pos rfl]
  · rw [part_setPath, if_pos rfl, put_cons]
    exact isTable_setPath _ b [] n
  · rw [field?_setPath_scalar t a b h, if_neg fun heq => hfield (congrArg Prod.snd heq)]
  · rw [lookup_setPath, if_neg hname]

/-- Two trees that a third one is beside the field. -/
theorem Beside.of_both (h : Beside path m t t') (h' : Beside path n t t'') : Beside path n t' t'' :=
  ⟨h'.given, h'.isTable, fun field hfield => (h'.fields field hfield).trans (h.fields field hfield).symm,
    fun name hname => (h'.parts name hname).trans (h.parts name hname).symm⟩

theorem leadsElsewhere_cases {steps : List Step} (h : leadsElsewhere path steps = true) :
    (∃ a rest, steps = .entry a :: rest ∧ lowerText a ≠ path.1) ∨
      ∃ a b rest, steps = .entry a :: .entry b :: rest ∧ lowerText a = path.1 ∧ lowerText b ≠ path.2 := by
  unfold leadsElsewhere at h
  split at h
  · next a b rest =>
    rw [decide_eq_true_iff] at h
    by_cases ha : lowerText a = path.1
    · exact Or.inr ⟨a, b, rest, rfl, ha, fun hb => h (Prod.ext ha hb)⟩
    · exact Or.inl ⟨a, .entry b :: rest, rfl, ha⟩
  · next a rest _ => exact Or.inl ⟨a, rest, rfl, of_decide_eq_true h⟩
  · cases h

/-- A path that leads elsewhere leaves two trees as far apart as they were. -/
theorem Beside.setPath (h : Beside path n t t') {steps : List Step} (hsteps : leadsElsewhere path steps = true) (m : Node) :
    Beside path n (t.setPath steps m) (t'.setPath steps m) := by
  obtain ⟨a, rest, rfl, ha⟩ | ⟨a, b, rest, rfl, ha, hb⟩ := leadsElsewhere_cases hsteps
  · have hpart : ∀ t : Node, (t.setPath (.entry a :: rest) m).part path.1 = t.part path.1 := fun t => by
      rw [part_setPath, if_neg ha.symm]
    refine ⟨?_, ?_, fun field hfield => ?_, fun name hname => ?_⟩
    · rw [field?, hpart]
      exact h.given
    · rw [hpart]
      exact h.isTable
    · rw [field?, field?, hpart, hpart]
      exact h.fields field hfield
    · rw [lookup_setPath, lookup_setPath, h.parts (lowerText a) ha, h.parts name hname]
  · refine ⟨?_, ?_, fun field hfield => ?_, fun name hname => ?_⟩
    · rw [field?_setPath_cons, if_neg fun hp => hb (congrArg Prod.snd hp).symm]
      exact h.given
    · rw [part_setPath, if_pos ha.symm, put_cons]
      exact isTable_setPath _ b rest m
    · rw [field?_setPath_cons, field?_setPath_cons, h.fields field hfield]
    · have hne : name ≠ lowerText a := ha ▸ hname
      rw [lookup_setPath, lookup_setPath, if_neg hne, if_neg hne, h.parts name hname]

theorem Beside.overlay (h : Beside path n t t') {es : List (String × Node)}
    (hes : ∀ e ∈ es, leadsElsewhere path (KeyPath.ofKey e.1) = true) :
    Beside path n (Layers.overlay t es) (Layers.overlay t' es) := by
  induction es generalizing t t' with
  | nil => exact h
  | cons e es ih =>
    exact ih (h.setPath (hes e List.mem_cons_self) e.2) fun e' he' => hes e' (List.mem_cons_of_mem e he')

end Node

/-! ## Reading -/

namespace Setting

variable {n : Node} {t t' : Node} {f g : Setting}

/-- No two settings have the same place. -/
theorem eq_of_path_eq (hf : f ∈ all) (hg : g ∈ all) (h : f.path = g.path) : f = g := by
  have hnodup : (all.map path).Nodup := by decide
  exact List.inj_on_of_nodup_map hnodup hf hg h

/-- What is read from the field in which two trees differ. -/
theorem look_given (h : Node.Beside f.path n t t') : f.look t' = f.read ⟨f.key, n⟩ := by
  rw [look_of_isTable (Node.isTable_of_part h.isTable), h.given]

/-- Beside the field in which two trees differ, what can be read from the first can be read from the second. -/
theorem exists_look_beside (hf : f ∈ all) (hg : g ∈ all) (hne : g ≠ f) (h : Node.Beside f.path n t t') {a : g.Value}
    (hlook : g.look t = .ok a) : ∃ b, g.look t' = .ok b := by
  by_cases hpart : g.path.1 = f.path.1
  · have hfield : g.path.2 ≠ f.path.2 := fun he => hne (eq_of_path_eq hg hf (Prod.ext hpart he))
    have hsame : t'.field? g.path = t.field? g.path := by
      have hpath : g.path = (f.path.1, g.path.2) := Prod.ext hpart rfl
      rw [hpath]
      exact h.fields g.path.2 hfield
    rw [look_of_isTable (Node.isTable_of_part (hpart ▸ h.isTable)), hsame]
    cases hm : t.field? g.path with
    | none => exact ⟨_, rfl⟩
    | some m =>
      rw [look_of_isTable (Node.isTable_of_part (Node.isTable_of_field? hm)), hm] at hlook
      exact ⟨a, hlook⟩
  · exact ⟨a, (look_congr (h.parts _ hpart)).trans hlook⟩

/-- If one tree has settings, so has another that differs in one field, provided that this field can be read. -/
theorem exists_ok_of_beside (hf : f ∈ all) (h : Node.Beside f.path n t t') {a : f.Value} (hread : f.read ⟨f.key, n⟩ = .ok a)
    {c : Settings} (hc : Reading.settings t = .ok c) : ∃ c', Reading.settings t' = .ok c' ∧ f.value c' = a := by
  have hagree : Agree t all c := by
    have hgives := gives_settings t
    rw [hc] at hgives
    exact hgives
  have hgives' := gives_settings t'
  cases hc' : Reading.settings t' with
  | ok c' =>
    rw [hc'] at hgives'
    have hlook := hgives' f hf
    rw [look_given h, hread] at hlook
    exact ⟨c', rfl, (Except.ok.inj hlook).symm⟩
  | error e =>
    rw [hc'] at hgives'
    obtain ⟨g, hg, hlook⟩ := hgives'
    by_cases hne : g = f
    · subst hne
      rw [look_given h, hread] at hlook
      cases hlook
    · obtain ⟨b, hb⟩ := exists_look_beside hf hg hne h (hagree g hg)
      cases hb.symm.trans hlook

end Setting

/-! ## The environment -/

namespace Layers

variable {f : Setting} {name : String}

theorem ofKey_key : ∀ f ∈ Setting.all, KeyPath.ofKey f.key = [.entry f.path.1, .entry f.path.2] := by decide +kernel

theorem lowerText_path : ∀ f ∈ Setting.all, lowerText f.path.1 = f.path.1 ∧ lowerText f.path.2 = f.path.2 := by decide +kernel

/-- No variable of a setting names the first file. -/
theorem ne_configPath (hf : f ∈ Setting.all) (hname : lowerText name = f.variableName) : name ≠ "CONFIG_PATH" := by
  have hother : ∀ f ∈ Setting.all, lowerText "CONFIG_PATH" ≠ f.variableName := by decide +kernel
  rintro rfl
  exact hother f hf hname

/-! Where files are found has nothing to do with the environment. -/

theorem walk_environment (s : Surroundings) (es : List (String × String)) (place parts : List String) :
    walk { s with environment := es } place parts = walk s place parts := by
  induction parts generalizing place with
  | nil => rfl
  | cons part rest ih =>
    simp only [walk, ih]
    rfl

theorem findFile_environment (s : Surroundings) (es : List (String × String)) (name : String) :
    findFile { s with environment := es } name = findFile s name := by
  simp only [findFile, contentOf?, walk_environment]

theorem localFile_environment (s : Surroundings) (es : List (String × String)) :
    localFile { s with environment := es } = localFile s := by
  simp only [localFile, findFile_environment]

/-- The file that is named depends on one variable only. -/
theorem namedFile_congr {s : Surroundings} {es es' : List (String × String)} (h : es.lookup "CONFIG_PATH" = es'.lookup "CONFIG_PATH") :
    namedFile { s with environment := es } = namedFile { s with environment := es' } := by
  simp only [namedFile, valueOf?, h, findFile_environment]

/-! One variable among others. -/

def withVariable (s : Surroundings) (before : List (String × String)) (name value : String) (after : List (String × String)) :
    Surroundings := { s with environment := before ++ (name, value) :: after }

/-- What a variable sets. -/
def variableNode (value : String) : Node := .scalar (some environmentOrigin) (variableValue value)

theorem environmentEntries_withVariable (hkey : variableKey? name = some f.key) (s : Surroundings)
    (before after : List (String × String)) (v : String) :
    environmentEntries (withVariable s before name v after) =
      environmentEntries { s with environment := before } ++
        ((if v = "" then [] else [(f.key, variableNode v)]) ++ environmentEntries { s with environment := after }) := by
  simp only [environmentEntries, withVariable, List.filterMap_append, List.filterMap_cons, hkey]
  by_cases hv : v = ""
  · simp only [hv, if_true, List.nil_append]
  · simp only [hv, if_false, Option.map_some]
    rfl

theorem lookup_withVariable (hname : name ≠ "CONFIG_PATH") (before after : List (String × String)) (v : String) :
    (before ++ (name, v) :: after).lookup "CONFIG_PATH" = (before.lookup "CONFIG_PATH").or (after.lookup "CONFIG_PATH") := by
  rw [List.lookup_append, Node.lookup_cons_ite, if_neg hname.symm]

theorem overlay_append (t : Node) (es es' : List (String × Node)) : overlay t (es ++ es') = overlay (overlay t es) es' :=
  List.foldl_append

/-- The value of a variable is put into its field. -/
theorem beside_variable (hf : f ∈ Setting.all) (t : Node) (value : String) :
    Node.Beside f.path (variableNode value) t (overlay t [(f.key, variableNode value)]) := by
  obtain ⟨hpart, hfield⟩ := lowerText_path f hf
  have hset : overlay t [(f.key, variableNode value)] = t.setPath [.entry f.path.1, .entry f.path.2] (variableNode value) :=
    congrArg (fun path => t.setPath path (variableNode value)) (ofKey_key f hf)
  have hbeside := Node.beside_setPath t f.path.1 f.path.2 (show (variableNode value).isScalar = true from rfl)
  rw [hpart, hfield] at hbeside
  rw [hset]
  exact hbeside

/-- Another text of a variable that is not empty makes a difference in its own field only. -/
theorem merged_withVariable (hf : f ∈ Setting.all) (hname : lowerText name = f.variableName) {s : Surroundings}
    {before after : List (String × String)} {v w : String} (hv : v ≠ "")
    (hafter : ∀ e ∈ environmentEntries { s with environment := after }, Node.leadsElsewhere f.path (KeyPath.ofKey e.1) = true)
    {t : Node} (ht : merged (withVariable s before name w after) = .ok t) :
    ∃ t', merged (withVariable s before name v after) = .ok t' ∧ Node.Beside f.path (variableNode v) t t' := by
  have hkey := key_of_variableName hf hname
  have hnamed : namedFile (withVariable s before name v after) = namedFile (withVariable s before name w after) := by
    have hother := ne_configPath hf hname
    exact namedFile_congr ((lookup_withVariable hother before after v).trans (lookup_withVariable hother before after w).symm)
  have hown : localFile (withVariable s before name v after) = localFile (withVariable s before name w after) :=
    (localFile_environment s _).trans (localFile_environment s _).symm
  unfold merged at ht ⊢
  rw [hnamed, hown]
  cases hn : namedFile (withVariable s before name w after) with
  | error e => rw [hn] at ht; cases ht
  | ok named =>
    cases ho : localFile (withVariable s before name w after) with
    | error e => rw [hn, ho] at ht; cases ht
    | ok own =>
      rw [hn, ho] at ht
      cases ht
      refine ⟨_, rfl, ?_⟩
      simp only [environmentEntries_withVariable hkey, overlay_append]
      generalize overlay (overlay (overlay defaults named) own) (environmentEntries { s with environment := before }) = base
      refine Node.Beside.overlay ?_ hafter
      rw [if_neg hv]
      by_cases hw : w = ""
      · rw [if_pos hw]
        exact beside_variable hf base v
      · rw [if_neg hw]
        exact (beside_variable hf base w).of_both (beside_variable hf base v)

/-! ## Texts -/

/-- What a text becomes on its way through the environment: a truth value is written in small letters, a whole number in digits
without needless zeros and signs, and any other number in full. -/
def shown (v : String) : String :=
  if lowerText v = "true" ∨ lowerText v = "false" then lowerText v
  else
    match Reading.numberInRange? Reading.minInt64 Reading.maxInt64 v with
    | some i => toString i
    | none =>
      match Decimal.read? v with
      | some x => Decimal.text x
      | none => v

theorem text_variableNode (key v : String) : Reading.text ⟨key, variableNode v⟩ = .ok (shown v) := by
  unfold variableNode variableValue shown Reading.text
  dsimp only
  by_cases ht : lowerText v = "true"
  · simp only [ht, if_true, true_or]
    rfl
  · by_cases hf : lowerText v = "false"
    · simp only [hf, if_true, or_true]
      rfl
    · simp only [ht, hf, if_false, or_self]
      cases Reading.numberInRange? Reading.minInt64 Reading.maxInt64 v with
      | some i => rfl
      | none => cases Decimal.read? v <;> rfl

end Layers

open Layers

/-- A variable of a setting that is a text, whatever its text, lets the settings be loaded if they can be loaded with another text of
it or without it, and the setting is what the text becomes on its way. -/
theorem Settings.variable_shown (s : Surroundings) {f : TextSetting} (hf : f ∈ TextSetting.all) {name : String}
    (hname : lowerText name = (Setting.ofText f).variableName) {before after : List (String × String)} {v w : String} (hv : v ≠ "")
    (hafter : ∀ e ∈ environmentEntries { s with environment := after }, Node.leadsElsewhere f.path (KeyPath.ofKey e.1) = true)
    (hrest : ∃ c, Settings.load (withVariable s before name w after) = .ok c) :
    ∃ c, Settings.load (withVariable s before name v after) = .ok c ∧ f.value c = shown v := by
  have hmem := Setting.ofText_mem f hf
  obtain ⟨c, hc⟩ := hrest
  unfold Settings.load at hc ⊢
  cases ht : merged (withVariable s before name w after) with
  | error e => rw [ht] at hc; cases hc
  | ok t =>
    rw [ht] at hc
    obtain ⟨t', ht', hbeside⟩ := merged_withVariable hmem hname hv hafter ht
    rw [ht']
    exact Setting.exists_ok_of_beside hmem hbeside (text_variableNode _ v) hc

/-- Surroundings without files and without variables. -/
def Layers.bare : Surroundings := { directory := "/srv", files := [], environment := [] }

theorem Settings.exists_load {s : Surroundings} (h : (Settings.load s).toOption.isSome = true) : ∃ c, Settings.load s = .ok c := by
  cases hc : Settings.load s with
  | ok c => exact ⟨c, rfl⟩
  | error e => rw [hc] at h; cases h

theorem Settings.variable_shown_leadingZeros :
    ∃ c, Settings.load (withVariable bare [] "ADAPTER__POSTGRES__DATABASE" "007" []) = .ok c ∧
      TextSetting.database.value c = shown "007" :=
  Settings.variable_shown bare (by simp [TextSetting.all]) (by decide +kernel) (by decide) (w := "") nofun
    (Settings.exists_load (by decide +kernel))

/-- Not every text of a variable arrives as it is. -/
theorem Settings.variable_not_verbatim :
    (∃ c, Settings.load (withVariable bare [] "ADAPTER__POSTGRES__DATABASE" "" []) = .ok c) ∧
      ¬∃ c, Settings.load (withVariable bare [] "ADAPTER__POSTGRES__DATABASE" "007" []) = .ok c ∧
        TextSetting.database.value c = "007" := by
  refine ⟨Settings.exists_load (by decide +kernel), ?_⟩
  rintro ⟨c, hc, hvalue⟩
  have hseven : (Settings.load (withVariable bare [] "ADAPTER__POSTGRES__DATABASE" "007" [])).toOption.map
      TextSetting.database.value = some "7" := by
    decide +kernel
  rw [hc] at hseven
  exact absurd (hvalue.symm.trans (Option.some.inj hseven)) (by decide)

end Intake
