import Intake.Service.Instance

/-!
# Peers: the instance and its competitors by name

The instance and the peers beside it compete in the same way. Each is reached by its name, together with its own rounds.
-/

namespace Intake

namespace Instance

/-- The name of the instance among its peers. -/
def ownName : String := "a"

/-- Replaces the peer of a name. -/
def putPeer (i : Instance) (p : Peer) : Instance :=
  { i with peers := i.peers.map fun q => if q.name = p.name then p else q }

/-- A peer as a candidate. -/
def peerCandidate : Candidate (AdvisoryLock × LockServer) := AdvisoryLock.candidate LockServer.service

/-- An act on the rounds of a peer. -/
def onPeer {α : Type} (p : Peer) (a : Act (Rounds × AdvisoryLock × LockServer) α) : Act Instance α := fun i =>
  let (r, (rounds, lock, server), events) := a (p.rounds, p.lock, i.server)
  (r, { i.putPeer { p with lock, rounds } with server }, events)

/-- Acts as the competitor of a name; none when there is none, or when the instance takes part in no election. -/
def asNode {α : Type} (name : String) (f : {σ : Type} → Candidate σ → Act (Rounds × σ) α) : Act Instance (Option α) := fun i =>
  if name = ownName then
    withCandidate none (fun c => do return some (← onRounds (f c))) i
  else
    match i.peers.find? fun p => p.name = name with
    | none => (none, i, [])
    | some p => (do return some (← onPeer p (f peerCandidate)) : Act Instance (Option α)) i

/-- An act of a candidate beside its rounds. -/
def besideRounds {σ α : Type} (a : Act σ α) : Act (Rounds × σ) α := a.on Prod.snd fun s p => (p.1, s)

/-- The competitor of a name competes. -/
def compete (name : String) : Act Instance (Option (Except ElectionError Bool)) := asNode name fun c => besideRounds c.compete

def isLeader (name : String) : Act Instance (Option (Except ElectionError Bool)) := asNode name fun c => besideRounds c.isLeader

def resign (name : String) : Act Instance (Option (Except ElectionError Unit)) := asNode name fun c => besideRounds c.resign

/-- The name under which a competitor reports. -/
def nodeId (name : String) : Act Instance (Option String) := asNode name fun c => Act.ofState fun s => (c.id s.2, s)

/-- The competitor of a name holds one round. -/
def runRound (name : String) : Act Instance (Option (Except ElectionError Bool)) := asNode name fun c => Rounds.run c

/-- The competitor of a name looks at its time without traffic; the answer says whether it is paused afterwards. -/
def checkIdle (name : String) (idle timeout : Span) : Act Instance (Option Bool) := asNode name fun c => do
  Rounds.checkIdle c idle timeout
  Act.ofState fun s => (s.1.paused, s)

def isPaused (name : String) : Act Instance (Option Bool) := asNode name fun _ => Act.ofState fun s => (s.1.paused, s)

end Instance

end Intake
