import Mathlib.Data.List.TakeWhile
import Intake.Postgres.Source

/-!
# Rotation: a password file that changes while sessions refresh

A refresh reads the whole file, and then takes over what it read. Other refreshes can come between the two steps, and so can changes of
the file. `Rotation` is the credentials of a source with any number of refreshes under way; alone, a refresh goes through its steps as
`Source.refresh` does (`refresh_alone`).

The password in use is always that of the refresh that completed last (`rotation_follows`). As long as no refresh overtakes another, that
is the one of them that read the file last. A refresh that was overtaken between its steps puts an older password back
(`overtaken_refresh_restores_old`).
-/

namespace Intake

/-- A refresh, by what is to be done next for it. -/
inductive Refresh where
  /-- The file is to be read. -/
  | begun
  /-- What was read is to be taken over; it was the reading of this turn. -/
  | read (turn : Nat) (content : String)
  | completed (password : String)
  | failed (cause : StorageError)

/-- The credentials of a source, the file, and refreshes under way, with a record of what was read and taken over. -/
structure Rotation where
  path : String
  /-- What a read of the file yields now. -/
  file : Except FileFault String
  credentials : Credentials := {}
  refreshes : List Refresh := []
  /-- What the reads that succeeded yielded, in their order. -/
  readings : List String := []
  /-- The turns of the readings that were taken over, in the order in which they were. -/
  taken : List Nat := []

namespace Rotation

/-- The next step of the refresh at a place. -/
def advance (r : Rotation) (k : Nat) : Refresh → Rotation
  | .begun =>
    match Credentials.content r.path r.file with
    | .error cause => { r with refreshes := r.refreshes.set k (.failed cause) }
    | .ok content =>
      { r with refreshes := r.refreshes.set k (.read r.readings.length content), readings := r.readings ++ [content] }
  | .read turn content =>
    { r with
      credentials := ((Credentials.apply content).run r.credentials).2.1
      refreshes := r.refreshes.set k (.completed ((Credentials.apply content).run r.credentials).1)
      taken := r.taken ++ [turn] }
  | .completed _ => r
  | .failed _ => r

inductive Move where
  /-- The file is written, or cannot be read from now on. -/
  | change (file : Except FileFault String)
  /-- A session begins to refresh the credentials. -/
  | begin
  /-- The refresh at a place takes its next step. -/
  | advance (k : Nat)

def step (r : Rotation) : Move → Rotation
  | .change file => { r with file }
  | .begin => { r with refreshes := r.refreshes ++ [.begun] }
  | .advance k =>
    match r.refreshes[k]? with
    | some f => r.advance k f
    | none => r

def run (r : Rotation) (moves : List Move) : Rotation := moves.foldl step r

/-- A source that has not read its password yet. -/
def start (path : String) (file : Except FileFault String) : Rotation := { path, file }

/-! ## A refresh alone -/

/-- The credentials and the answer of a refresh with nothing in between are those of the program. -/
theorem refresh_alone {σ : Type} {svc : DatabaseServer σ} {src : Source} {s : σ} {r : Rotation} {k : Nat}
    (hfile : src.settings.passwordFile ≠ "") (hpath : r.path = src.settings.passwordFile) (hnow : r.file = svc.passwordFile s)
    (hsame : r.credentials = src.credentials) (h : r.refreshes[k]? = some .begun) :
    (r.run [.advance k, .advance k]).credentials = ((Source.refresh svc).run (src, s)).2.1.1.credentials ∧
      ((∃ cause, ((Source.refresh svc).run (src, s)).1 = .error cause ∧
          (r.run [.advance k, .advance k]).refreshes[k]? = some (.failed cause)) ∨
        ∃ password, ((Source.refresh svc).run (src, s)).1 = .ok { src.base with password := some password } ∧
          (r.run [.advance k, .advance k]).refreshes[k]? = some (.completed password)) := by
  have hk : k < r.refreshes.length := (List.getElem?_eq_some_iff.1 h).1
  unfold Source.refresh
  rw [Act.run_get_bind_result, Act.run_get_bind_state]
  simp only [if_neg hfile, run, List.foldl_cons, List.foldl_nil, step, h, advance, hpath, hnow, Act.run_bind_result, Act.run_bind_state,
    Act.run_report]
  cases Credentials.content src.settings.passwordFile (svc.passwordFile s) with
  | error cause =>
    simp only [List.getElem?_set_self hk]
    exact ⟨hsame, Or.inl ⟨cause, rfl, rfl⟩⟩
  | ok content =>
    simp only [List.getElem?_set_self hk, List.set_set, hsame]
    exact ⟨rfl, Or.inr ⟨_, rfl, rfl⟩⟩

/-! ## What the credentials follow -/

/-- A password is a content without the line ends behind it. -/
def IsPasswordOf (password content : String) : Prop :=
  ∃ lineEnds : List Char, content.toList = password.toList ++ lineEnds ∧ (∀ c ∈ lineEnds, c = '\n' ∨ c = '\r') ∧
    ∀ c ∈ password.toList.getLast?, ¬(c = '\n' ∨ c = '\r')

theorem isPasswordOf_passwordOf (content : String) : IsPasswordOf (Credentials.passwordOf content) content := by
  have hrest := List.head?_dropWhile_not (fun c => decide (c = '\n') || decide (c = '\r')) content.toList.reverse
  refine ⟨(content.toList.reverse.takeWhile fun c => c = '\n' || c = '\r').reverse, ?_, fun c hc => ?_, fun c hc => ?_⟩
  · rw [Credentials.passwordOf, String.toList_ofList, ← List.reverse_append, List.takeWhile_append_dropWhile, List.reverse_reverse]
  · simpa using List.mem_takeWhile_imp (List.mem_reverse.1 hc)
  · rw [Credentials.passwordOf, String.toList_ofList, List.getLast?_reverse] at hc
    rw [hc] at hrest
    simpa using hrest

/-- The password of the refresh that completed last. -/
def latest (r : Rotation) : Option String := (r.taken.getLast?.bind fun turn => r.readings[turn]?).map Credentials.passwordOf

structure Inv (r : Rotation) : Prop where
  inUse : r.credentials.inUse = r.credentials.current
  current : r.credentials.current = r.latest
  /-- What a refresh has read is the reading of its turn. -/
  read : ∀ turn content, .read turn content ∈ r.refreshes → r.readings[turn]? = some content
  taken : ∀ turn ∈ r.taken, turn < r.readings.length

variable {r : Rotation}

/-- A content that is taken over is the password from then on. -/
theorem apply_spec (content : String) {c : Credentials} (h : c.inUse = c.current) :
    ((Credentials.apply content).run c).2.1.current = some (Credentials.passwordOf content) ∧
      ((Credentials.apply content).run c).2.1.inUse = ((Credentials.apply content).run c).2.1.current := by
  unfold Credentials.apply Act.run
  dsimp only
  split
  · next hsame => exact ⟨hsame, h⟩
  · exact ⟨rfl, rfl⟩

theorem Inv.begun (h : r.Inv) (k : Nat) : (r.advance k .begun).Inv := by
  unfold advance
  cases Credentials.content r.path r.file with
  | error cause =>
    refine ⟨h.inUse, h.current, fun turn content hmem => ?_, h.taken⟩
    exact h.read turn content ((List.mem_or_eq_of_mem_set hmem).resolve_right (by simp))
  | ok content =>
    have hold : ∀ {turn : Nat}, turn < r.readings.length → (r.readings ++ [content])[turn]? = r.readings[turn]? := fun hturn =>
      List.getElem?_append_left hturn
    refine ⟨h.inUse, ?_, fun turn other hmem => ?_, fun turn hturn => ?_⟩
    · rw [h.current]
      unfold latest
      cases hlast : r.taken.getLast? with
      | none => rfl
      | some turn => simp only [Option.bind_some, hold (h.taken turn (List.mem_of_getLast? hlast))]
    · rcases List.mem_or_eq_of_mem_set hmem with hmem | heq
      · have hread := h.read turn other hmem
        exact (hold (List.getElem?_eq_some_iff.1 hread).1).trans hread
      · cases heq
        exact List.getElem?_concat_length
    · rw [List.length_append]
      exact Nat.lt_add_right _ (h.taken turn hturn)

theorem Inv.readOver (h : r.Inv) {k turn : Nat} {content : String} (hmem : .read turn content ∈ r.refreshes) :
    (r.advance k (.read turn content)).Inv := by
  have hread := h.read turn content hmem
  obtain ⟨hcurrent, hinUse⟩ := apply_spec content h.inUse
  refine ⟨hinUse, ?_, fun turn' content' hmem' => ?_, fun turn' hturn' => ?_⟩
  · simp only [latest, advance, hcurrent, List.getLast?_concat, Option.bind_some, hread, Option.map_some]
  · exact h.read turn' content' ((List.mem_or_eq_of_mem_set hmem').resolve_right (by simp))
  · rcases List.mem_append.1 hturn' with hturn' | hturn'
    · exact h.taken turn' hturn'
    · rw [List.mem_singleton.1 hturn']
      exact (List.getElem?_eq_some_iff.1 hread).1

theorem Inv.step (h : r.Inv) (m : Move) : (r.step m).Inv := by
  cases m with
  | change file => exact ⟨h.inUse, h.current, h.read, h.taken⟩
  | begin =>
    refine ⟨h.inUse, h.current, fun turn content hmem => h.read turn content ?_, h.taken⟩
    simpa [Rotation.step] using hmem
  | advance k =>
    unfold Rotation.step
    dsimp only
    cases hf : r.refreshes[k]? with
    | none => exact h
    | some f =>
      cases f with
      | begun => exact h.begun k
      | read turn content => exact h.readOver (List.mem_of_getElem? hf)
      | completed password => exact h
      | failed cause => exact h

theorem Inv.run (h : r.Inv) (moves : List Move) : (r.run moves).Inv := by
  induction moves generalizing r with
  | nil => exact h
  | cons m rest ih => exact ih (h.step m)

/-- What the credentials follow, whatever is interleaved. -/
structure Follows (r : Rotation) : Prop where
  /-- New connections log in with the password that was taken over. -/
  inUse : r.credentials.inUse = r.credentials.current
  /-- The password is that of the refresh that completed last. -/
  last : ∀ turn, r.taken.getLast? = some turn →
    ∃ content password, r.readings[turn]? = some content ∧ IsPasswordOf password content ∧ r.credentials.current = some password
  /-- Where refreshes complete in the order of their reads, it is that of the one that read the file last. -/
  inTurn : r.taken.Pairwise (· < ·) → ∀ turn ∈ r.taken, (∀ other ∈ r.taken, other ≤ turn) →
    ∃ content password, r.readings[turn]? = some content ∧ IsPasswordOf password content ∧ r.credentials.current = some password
  /-- A refresh that cannot read the file fails with the reason and changes nothing else. -/
  unreadable : ∀ k cause, r.refreshes[k]? = some .begun → r.file = .error cause →
    r.step (.advance k) = { r with refreshes := r.refreshes.set k (.failed (.passwordFile r.path cause)) }

theorem Inv.last (h : r.Inv) {turn : Nat} (hlast : r.taken.getLast? = some turn) :
    ∃ content password, r.readings[turn]? = some content ∧ IsPasswordOf password content ∧ r.credentials.current = some password := by
  have hturn := h.taken turn (List.mem_of_getLast? hlast)
  have hread := List.getElem?_eq_getElem hturn
  refine ⟨_, _, hread, isPasswordOf_passwordOf _, ?_⟩
  rw [h.current, latest, hlast, Option.bind_some, hread, Option.map_some]

/-- The last of turns in order is the greatest. -/
theorem getLast?_of_greatest {turns : List Nat} (hsorted : turns.Pairwise (· < ·)) {turn : Nat} (hmem : turn ∈ turns)
    (hgreatest : ∀ other ∈ turns, other ≤ turn) : turns.getLast? = some turn := by
  obtain ⟨before, last, rfl⟩ := (List.eq_nil_or_concat turns).resolve_left (List.ne_nil_of_mem hmem)
  rw [List.concat_eq_append] at *
  rcases List.mem_append.1 hmem with hbefore | hlast
  · have hlt := (List.pairwise_append.1 hsorted).2.2 turn hbefore last (List.mem_singleton.2 rfl)
    have hle := hgreatest last (List.mem_append_right _ (List.mem_singleton.2 rfl))
    exact absurd hlt (Nat.not_lt.2 hle)
  · rw [List.mem_singleton.1 hlast, List.getLast?_concat]

/-- However refreshes are interleaved with each other and with changes of the file: new connections log in with the password of the
refresh that completed last, which is that of the latest read where no refresh overtook another, and a refresh that cannot read the file
changes nothing. -/
theorem rotation_follows (path : String) (file : Except FileFault String) (moves : List Move) : ((start path file).run moves).Follows := by
  have hstart : (start path file).Inv := ⟨rfl, rfl, nofun, nofun⟩
  have hrun := hstart.run moves
  refine ⟨hrun.inUse, fun turn => hrun.last, fun hsorted turn hmem hgreatest => ?_, fun k cause hbegun hfile => ?_⟩
  · exact hrun.last (getLast?_of_greatest hsorted hmem hgreatest)
  · simp only [step, hbegun, advance, hfile, Credentials.content]

/-- Two refreshes, the second of which begins when the first one has read the file, and reads another password. -/
def overtaking : List Move :=
  [.begin, .advance 0, .change (.ok "new\n"), .begin, .advance 1, .advance 1, .advance 0]

/-- The one that was overtaken takes over what it read, and the password is the old one again. -/
theorem overtaken_refresh_restores_old :
    ((start "password" (.ok "old\n")).run overtaking).taken = [1, 0] ∧
      ((start "password" (.ok "old\n")).run overtaking).readings = ["old\n", "new\n"] ∧
      ((start "password" (.ok "old\n")).run overtaking).credentials = { current := some "old", inUse := some "old" } := by
  decide +kernel

end Rotation

end Intake
