import Intake.Act

/-!
# Candidates: ways of taking part in an election

A candidate has a name, competes for leadership or confirms it, says whether it leads, and gives leadership up. The state it acts
on is its own and that of whatever it competes through.
-/

namespace Intake

structure Candidate (σ : Type) where
  id : σ → String
  /-- Competes for leadership, or confirms it. The answer says whether this candidate leads; an error says that nobody knows. -/
  compete : Act σ (Except ElectionError Bool)
  /-- Whether this candidate leads, as far as it knows. -/
  isLeader : Act σ (Except ElectionError Bool)
  /-- Gives leadership up, if held. -/
  resign : Act σ (Except ElectionError Unit)

/-- A candidate written out, as who only reads it sees it. -/
def Candidate.detail {σ : Type} (c : Candidate σ) (s : σ) : Detail := .record "Elector" [("id", .quoted (c.id s))]

/-- A candidate whose state is a part of a larger one. -/
def Candidate.on {σ τ : Type} (c : Candidate σ) (part : τ → σ) (put : σ → τ → τ) : Candidate τ where
  id t := c.id (part t)
  compete := c.compete.on part put
  isLeader := c.isLeader.on part put
  resign := c.resign.on part put

end Intake
