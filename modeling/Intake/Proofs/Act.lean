import Intake.Act

/-!
# Acts: what an act yields

`a.Yields s Q` says that the act `a`, begun in the state `s`, gives an answer and leaves a state that satisfy `Q`; what it reports does
not matter. Acts that are put together yield what their parts yield one after the other, so that a statement about a long act follows
from one about each of its parts. `a.Keeps f` says that the act leaves what `f` shows of the state as it is, wherever it begins.
-/

namespace Intake

namespace Act

variable {σ τ α β γ : Type} {s : σ}

/-- The answer of the act and the state it leaves satisfy `Q`. -/
def Yields (a : Act σ α) (s : σ) (Q : α → σ → Prop) : Prop := Q (a.run s).1 (a.run s).2.1

theorem Yields.mono {a : Act σ α} {Q R : α → σ → Prop} (h : a.Yields s Q) (hQR : ∀ x s', Q x s' → R x s') : a.Yields s R :=
  hQR _ _ h

theorem yields_bind {a : Act σ α} {f : α → Act σ β} {Q : β → σ → Prop} :
    (a >>= f).Yields s Q ↔ a.Yields s fun x s' => (f x).Yields s' Q := Iff.rfl

/-- One act after another. -/
theorem Yields.bind {a : Act σ α} {f : α → Act σ β} {Q : α → σ → Prop} {R : β → σ → Prop} (h : a.Yields s Q)
    (hf : ∀ x s', Q x s' → (f x).Yields s' R) : (a >>= f).Yields s R :=
  yields_bind.2 (h.mono hf)

theorem yields_pure {x : α} {Q : α → σ → Prop} : (Pure.pure x : Act σ α).Yields s Q ↔ Q x s := Iff.rfl

/-- An act that looks at the state first. -/
theorem yields_get_bind {f : σ → Act σ β} {Q : β → σ → Prop} : (get >>= f).Yields s Q ↔ (f s).Yields s Q := Iff.rfl

/-- An act that reports first. -/
theorem yields_report_bind {es : List Event} {f : Unit → Act σ β} {Q : β → σ → Prop} :
    (report es >>= f).Yields s Q ↔ (f ()).Yields s Q := Iff.rfl

/-- An act that changes the state first. -/
theorem yields_modify_bind {g : σ → σ} {f : Unit → Act σ β} {Q : β → σ → Prop} :
    (modify g >>= f).Yields s Q ↔ (f ()).Yields (g s) Q := Iff.rfl

/-- An act on a part of the state. -/
theorem yields_on {part : τ → σ} {put : σ → τ → τ} {a : Act σ α} {t : τ} {Q : α → τ → Prop} :
    (a.on part put).Yields t Q ↔ a.Yields (part t) fun x s => Q x (put s t) := Iff.rfl

/-! ## Whole runs -/

theorem run_get_bind (f : σ → Act σ β) (s : σ) : (get >>= f).run s = (f s).run s := rfl

variable {s' s'' : σ} {x : α} {y : β} {es es' : List Event}

/-- The run of one act after another, from their runs. -/
theorem run_bind_eq {a : Act σ α} {f : α → Act σ β} (ha : a.run s = (x, s', es)) (hf : (f x).run s' = (y, s'', es')) :
    (a >>= f).run s = (y, s'', es ++ es') := by
  rw [run_bind, ha]
  dsimp only
  rw [hf]

/-- An act that reports nothing, and another one after it. -/
theorem run_bind_quiet {a : Act σ α} {f : α → Act σ β} (ha : a.run s = (x, s', [])) : (a >>= f).run s = (f x).run s' :=
  run_bind_eq ha rfl

/-! ## What an act leaves alone -/

/-- The act leaves what `f` shows of the state as it is. -/
def Keeps (f : σ → γ) (a : Act σ α) : Prop := ∀ s, a.Yields s fun _ s' => f s' = f s

variable {f : σ → γ}

theorem keeps_pure (x : α) : (Pure.pure x : Act σ α).Keeps f := fun _ => rfl

theorem keeps_get : (get : Act σ σ).Keeps f := fun _ => rfl

theorem keeps_report (es : List Event) : (report es : Act σ Unit).Keeps f := fun _ => rfl

theorem keeps_modify {g : σ → σ} (h : ∀ s, f (g s) = f s) : (modify g).Keeps f := h

theorem Keeps.bind {a : Act σ α} {k : α → Act σ β} (ha : a.Keeps f) (hk : ∀ x, (k x).Keeps f) : (a >>= k).Keeps f :=
  fun s => (ha s).bind fun x s' h => (hk x s').mono fun _ _ h' => h'.trans h

end Act

end Intake
