import Switchboard.Relay.Chat

/-!
Several chats at once on one relay. Chats take turns: each runs until it ends or its attempt
suspends, and a suspended chat goes to the end of the queue. The queue empties, because every turn
uses up a suspension of the attempt under way or one of the candidates that are left.
-/

namespace Switchboard.Relay

variable {σ : Type}

/-- A chat whose attempt is suspended. -/
structure Waiting where
  attempt : Attempt
  pending : Pending
  /-- Candidates behind the one that is being tried. -/
  rest : List Model
  /-- Turns until the attempt ends. -/
  turns : Nat

/-- How far a chat got with fewer than `n` candidates left. -/
inductive Progress (n : Nat) where
  | answered (r : Response)
  | waiting (w : Waiting) (fewer : w.rest.length < n)

namespace Progress

def weaken {m n : Nat} (h : m ≤ n) : Progress m → Progress n
  | answered r => answered r
  | waiting w fewer => waiting w (Nat.lt_of_lt_of_le fewer h)

end Progress

/-- Tries models in order until one answers or an attempt suspends. -/
def run (t : Transport σ) : (models : List Model) → Pending → Step (Relay σ) (Progress models.length)
  | [], p => exhaust p
  | m :: rest, p => do
    let a ← dispatch t m p
    if a.delivery.suspensions = 0 then
      match ← settle a with
      | .ok response => return .answered response
      | .error f =>
        let progress ← run t rest (p.after m f)
        return progress.weaken (Nat.le_succ _)
    else return .waiting ⟨a, p, rest, a.delivery.suspensions⟩ (Nat.lt_succ_self _)

/-- Ends the attempt of a waiting chat and goes on from there. -/
def resume (t : Transport σ) (w : Waiting) : Step (Relay σ) (Progress w.rest.length) := do
  match ← settle w.attempt with
  | .ok response => return .answered response
  | .error f => run t w.rest (w.pending.after w.attempt.model f)

/-- What a fault is to those who wait for several chats: of a cancelled chat they learn no more than
that it was. -/
def seenTogether : Fault → Fault
  | .cancelled _ => .cancelled ""
  | fault => fault

/-- The answers so far, by the number of the chat. -/
abbrev Answers := Entries Nat (Except Fault Response)

/-- Candidates that the chats in the queue have not finished with. -/
def openCandidates : (queue : List (Nat × Waiting)) → Nat
  | [] => 0
  | (_, w) :: queue => w.rest.length + 1 + openCandidates queue

/-- Turns that the attempts in the queue are still to wait. -/
def openTurns : (queue : List (Nat × Waiting)) → Nat
  | [] => 0
  | (_, w) :: queue => w.turns + openTurns queue

theorem openCandidates_concat (queue : List (Nat × Waiting)) (i : Nat) (w : Waiting) :
    openCandidates (queue ++ [(i, w)]) = openCandidates queue + (w.rest.length + 1) := by
  induction queue with
  | nil => simp [openCandidates]
  | cons e queue ih =>
    simp only [List.cons_append, openCandidates, ih]
    omega

theorem openTurns_concat (queue : List (Nat × Waiting)) (i : Nat) (w : Waiting) :
    openTurns (queue ++ [(i, w)]) = openTurns queue + w.turns := by
  induction queue with
  | nil => simp [openTurns]
  | cons e queue ih =>
    simp only [List.cons_append, openTurns, ih]
    omega

def serve (t : Transport σ) : (queue : List (Nat × Waiting)) → Answers → Step (Relay σ) Answers
  | [], answers => return answers
  | (i, w) :: queue, answers =>
    if 1 < w.turns then serve t (queue ++ [(i, { w with turns := w.turns - 1 })]) answers
    else do
      match ← Step.catching (resume t w) with
      | .error fault => serve t queue (Entries.put answers i (.error (seenTogether fault)))
      | .ok (.answered response) => serve t queue (Entries.put answers i (.ok response))
      | .ok (.waiting w' _) => serve t (queue ++ [(i, w')]) answers
termination_by queue => (openCandidates queue, openTurns queue)
decreasing_by
  all_goals
    simp only [openCandidates_concat, openTurns_concat, openCandidates, openTurns, Prod.lex_def]
    omega

/-- Starts chats in order; those that suspend are queued. -/
def start (t : Transport σ) : (i : Nat) → List ChatRequest → List (Nat × Waiting) → Answers →
    Step (Relay σ) (List (Nat × Waiting) × Answers)
  | _, [], queue, answers => return (queue, answers)
  | i, q :: rest, queue, answers => do
    let opening : Step (Relay σ) (Except Fault ((n : Nat) × Progress n)) := Step.catching do
      let (models, p) ← begin q
      let progress ← run t models p
      return ⟨models.length, progress⟩
    match ← opening with
    | .error fault => start t (i + 1) rest queue (Entries.put answers i (.error (seenTogether fault)))
    | .ok ⟨_, .answered response⟩ =>
      start t (i + 1) rest queue (Entries.put answers i (.ok response))
    | .ok ⟨_, .waiting w _⟩ => start t (i + 1) rest (queue ++ [(i, w)]) answers

/-- Answers several chats at once, each with an answer or a fault of its own. -/
def gather (t : Transport σ) (qs : List ChatRequest) : Step (Relay σ) (List (Except Fault Response)) := do
  let (queue, answers) ← start t 0 qs [] []
  let answers ← serve t queue answers
  return (List.range qs.length).filterMap (Entries.get? answers)

end Switchboard.Relay
