import SlimA2a.Scheduler
import Mathlib.Data.List.ReduceOption

/-! # Reading what others still write

Every generator of a pool sends its items to a reader of its own.  What was sent waits in a queue,
and the reader takes it from the front: it yields an item for a message, or ends with it, and waits
while the queue is empty.  A schedule says whose turn it is.

The readers change nothing for the generators (`Mailroom.senders_run`), and a reader has read an
initial part of what was sent to it (`Mailroom.follows_run`); a reader that has caught up has read
all of it, or has ended (`Reader.Follows.readAll_of_caughtUp`).

A `Gathering` has one reader for all of its generators, each of them in a world of its own, and the
same laws. -/

namespace SlimA2a

/-! ### Reading a list -/

section list
variable {μ α β δ : Type}

/-- An item, or the error that ends the reader. -/
def itemOr : Except δ α → α ⊕ Except δ Unit
  | .ok a => .inl a
  | .error e => .inr (.error e)

/-- What a reader yields from a list of messages, and how it ends if one of them ends it. -/
def readAll (read : μ → α ⊕ Except δ Unit) : List μ → List α × Option (Except δ Unit)
  | [] => ([], none)
  | m :: ms =>
      match read m with
      | .inl a => (a :: (readAll read ms).1, (readAll read ms).2)
      | .inr r => ([], some r)

variable {read : μ → α ⊕ Except δ Unit}

theorem readAll_map {ν : Type} (f : ν → μ) :
    ∀ ms : List ν, readAll read (ms.map f) = readAll (fun m => read (f m)) ms
  | [] => rfl
  | m :: ms => by
      rw [List.map_cons, readAll, readAll, readAll_map f ms]

theorem readAll_append_of_none (ms : List μ) :
    ∀ {taken : List μ}, (readAll read taken).2 = none →
      readAll read (taken ++ ms) =
        ((readAll read taken).1 ++ (readAll read ms).1, (readAll read ms).2)
  | [], _ => rfl
  | m :: taken, h => by
      rw [List.cons_append]
      rw [readAll] at h ⊢
      rw [readAll]
      cases hm : read m with
      | inl a =>
          rw [hm] at h
          dsimp only at h ⊢
          rw [readAll_append_of_none ms h]
          rfl
      | inr r =>
          rw [hm] at h
          cases h

theorem readAll_append_of_some (ms : List μ) {r : Except δ Unit} :
    ∀ {taken : List μ}, (readAll read taken).2 = some r →
      readAll read (taken ++ ms) = ((readAll read taken).1, some r)
  | m :: taken, h => by
      rw [List.cons_append]
      rw [readAll] at h ⊢
      rw [readAll]
      cases hm : read m with
      | inl a =>
          rw [hm] at h
          dsimp only at h ⊢
          rw [readAll_append_of_some ms h]
      | inr r' =>
          rw [hm] at h
          exact congrArg (Prod.mk []) h

end list

/-! ### A reader -/

/-- The messages on their way to a reader, what it has yielded, and how it ended. -/
structure Reader (δ μ α : Type) where
  queue : List μ
  yielded : List α
  ended : Option (Except δ Unit)

namespace Reader
variable {δ μ α : Type}

def start : Reader δ μ α := ⟨[], [], none⟩

def receive (r : Reader δ μ α) (ms : List μ) : Reader δ μ α := { r with queue := r.queue ++ ms }

/-- The reader takes a message, if there is one and it has not ended. -/
def consume (read : μ → α ⊕ Except δ Unit) (r : Reader δ μ α) : Reader δ μ α :=
  match r.ended, r.queue with
  | none, m :: ms =>
      match read m with
      | .inl a => ⟨ms, r.yielded ++ [a], none⟩
      | .inr e => ⟨ms, r.yielded, some e⟩
  | _, _ => r

/-- The reader has taken an initial part of what was sent, and the rest is on its way. -/
def Follows (read : μ → α ⊕ Except δ Unit) (r : Reader δ μ α) (sent : List μ) : Prop :=
  ∃ taken, sent = taken ++ r.queue ∧ readAll read taken = (r.yielded, r.ended)

variable {read : μ → α ⊕ Except δ Unit} {r : Reader δ μ α} {sent : List μ}

theorem follows_start : (start : Reader δ μ α).Follows read [] := ⟨[], rfl, rfl⟩

theorem Follows.receive (h : r.Follows read sent) (ms : List μ) :
    (r.receive ms).Follows read (sent ++ ms) := by
  obtain ⟨taken, rfl, htaken⟩ := h
  exact ⟨taken, List.append_assoc _ _ _, htaken⟩

theorem Follows.consume (h : r.Follows read sent) : (r.consume read).Follows read sent := by
  obtain ⟨taken, rfl, htaken⟩ := h
  obtain ⟨queue, yielded, ended⟩ := r
  cases ended with
  | some e => exact ⟨taken, rfl, htaken⟩
  | none =>
      cases queue with
      | nil => exact ⟨taken, rfl, htaken⟩
      | cons m ms =>
          have hone : readAll read (taken ++ [m]) =
              (yielded ++ (readAll read [m]).1, (readAll read [m]).2) := by
            rw [readAll_append_of_none [m] (congrArg Prod.snd htaken), htaken]
          refine ⟨taken ++ [m], ?_, hone.trans ?_⟩
          · rw [Reader.consume]
            dsimp only
            rw [List.append_assoc]
            cases read m <;> rfl
          · rw [Reader.consume, readAll]
            dsimp only
            cases read m with
            | inl a => rfl
            | inr e => exact congrArg (·, some e) (List.append_nil yielded)

/-- What a reader has yielded is what it yields of all messages, or the first items of it. -/
theorem Follows.initial (h : r.Follows read sent) : r.yielded <+: (readAll read sent).1 := by
  obtain ⟨taken, rfl, htaken⟩ := h
  cases hended : r.ended with
  | some e =>
      rw [hended] at htaken
      have hall := readAll_append_of_some r.queue (congrArg Prod.snd htaken)
      rw [htaken] at hall
      exact (congrArg Prod.fst hall).symm ▸ List.prefix_rfl
  | none =>
      rw [hended] at htaken
      rw [readAll_append_of_none r.queue (congrArg Prod.snd htaken), htaken]
      exact List.prefix_append _ _

/-- A reader that has ended did so as all messages make it end. -/
theorem Follows.readAll_of_ended (h : r.Follows read sent) {e : Except δ Unit}
    (he : r.ended = some e) : readAll read sent = (r.yielded, some e) := by
  obtain ⟨taken, rfl, htaken⟩ := h
  rw [he] at htaken
  rw [readAll_append_of_some r.queue (congrArg Prod.snd htaken), htaken]

/-- The reader has ended, or it has read everything that was sent. -/
def CaughtUp (r : Reader δ μ α) : Prop := r.ended = none → r.queue = []

theorem Follows.readAll_of_caughtUp (h : r.Follows read sent) (hr : r.CaughtUp) :
    readAll read sent = (r.yielded, r.ended) := by
  cases he : r.ended with
  | some e => exact h.readAll_of_ended he
  | none =>
      obtain ⟨taken, rfl, htaken⟩ := h
      rw [hr he, List.append_nil, htaken, he]

end Reader

/-! ### Generators and their readers -/

/-- Whose turn it is. -/
inductive Turn (ι : Type) where
  | sender (i : ι)
  | reader (i : ι)

def Turn.sender? {ι : Type} : Turn ι → Option ι
  | sender i => some i
  | reader _ => none

/-- Generators that share a world, and a reader for each of them. -/
structure Mailroom (ι σ ε δ μ α : Type) where
  senders : Pool ι σ ε μ
  readers : ι → Reader δ μ α

namespace Mailroom
variable {ι : Type} [DecidableEq ι] {σ ε δ μ α : Type} (read : ι → μ → α ⊕ Except δ Unit)

/-- A sender takes a step, and what it yields is on its way; or a reader takes a message. -/
def step (d : Mailroom ι σ ε δ μ α) : Turn ι → Mailroom ι σ ε δ μ α
  | .sender i =>
      ⟨d.senders.step i, Function.update d.readers i
        ((d.readers i).receive ((d.senders.gens i).step d.senders.world).items)⟩
  | .reader i => ⟨d.senders, Function.update d.readers i ((d.readers i).consume (read i))⟩

def run (d : Mailroom ι σ ε δ μ α) (schedule : List (Turn ι)) : Mailroom ι σ ε δ μ α :=
  schedule.foldl (step read) d

/-- The readers change nothing for the senders. -/
theorem senders_run (d : Mailroom ι σ ε δ μ α) (schedule : List (Turn ι)) :
    (d.run read schedule).senders = d.senders.run (schedule.filterMap Turn.sender?) := by
  induction schedule generalizing d with
  | nil => rfl
  | cons turn schedule ih => cases turn <;> exact ih _

/-- Every reader follows its sender. -/
def Follows (d : Mailroom ι σ ε δ μ α) : Prop :=
  ∀ i, (d.readers i).Follows (read i) (itemsOf i d.senders.trace)

section follows
variable {read} {d : Mailroom ι σ ε δ μ α}

theorem follows_step (h : d.Follows read) (turn : Turn ι) : (d.step read turn).Follows read := by
  intro j
  cases turn with
  | sender i =>
      rw [step]
      dsimp only
      rw [Pool.itemsOf_trace_step]
      by_cases hj : j = i
      · subst hj
        rw [Function.update_self, if_pos rfl]
        exact (h j).receive _
      · rw [Function.update_of_ne hj, if_neg hj, List.append_nil]
        exact h j
  | reader i =>
      rw [step]
      dsimp only
      by_cases hj : j = i
      · subst hj
        rw [Function.update_self]
        exact (h j).consume
      · rw [Function.update_of_ne hj]
        exact h j

/-- **Whatever the schedule is, every reader follows its sender.** -/
theorem follows_run (h : d.Follows read) (schedule : List (Turn ι)) :
    (d.run read schedule).Follows read := by
  induction schedule generalizing d with
  | nil => exact h
  | cons turn schedule ih => exact ih (follows_step h turn)

end follows

end Mailroom

/-! ### One reader for many generators -/

/-- Generators in worlds of their own, and one reader that gets what they all send. -/
structure Gathering (ι : Type) (W : ι → Type) (ε δ α μ β : Type) where
  senders : Fleet ι W ε α
  reader : Reader δ μ β

namespace Gathering
variable {ι : Type} [DecidableEq ι] {W : ι → Type} {ε δ α μ β : Type}
  (carry : ι × α → Option μ) (read : μ → β ⊕ Except δ Unit)

/-- A sender takes a step, and what is carried of it is on its way; or the reader takes a
message. -/
def step (d : Gathering ι W ε δ α μ β) : Option ι → Gathering ι W ε δ α μ β
  | some i =>
      ⟨d.senders.step i, d.reader.receive
        ((((d.senders.gens i).step (d.senders.worlds i)).items.map fun a => (i, a)).filterMap
          carry)⟩
  | none => ⟨d.senders, d.reader.consume read⟩

def run (d : Gathering ι W ε δ α μ β) (turns : List (Option ι)) : Gathering ι W ε δ α μ β :=
  turns.foldl (step carry read) d

/-- The reader changes nothing for the senders. -/
theorem senders_run (d : Gathering ι W ε δ α μ β) (turns : List (Option ι)) :
    (d.run carry read turns).senders = d.senders.run turns.reduceOption := by
  induction turns generalizing d with
  | nil => rfl
  | cons turn turns ih => cases turn <;> exact ih _

section follows
variable {carry read} {d : Gathering ι W ε δ α μ β}

/-- The reader follows what is carried of all that was sent. -/
def Follows (carry : ι × α → Option μ) (read : μ → β ⊕ Except δ Unit)
    (d : Gathering ι W ε δ α μ β) : Prop :=
  d.reader.Follows read (d.senders.trace.filterMap carry)

theorem follows_step (h : d.Follows carry read) (turn : Option ι) :
    (d.step carry read turn).Follows carry read := by
  cases turn with
  | none => exact Reader.Follows.consume h
  | some i =>
      unfold Follows step Fleet.step
      dsimp only
      rw [List.filterMap_append]
      exact Reader.Follows.receive h _

/-- **Whatever the order of turns is, the reader follows what was sent.** -/
theorem follows_run (h : d.Follows carry read) (turns : List (Option ι)) :
    (d.run carry read turns).Follows carry read := by
  induction turns generalizing d with
  | nil => exact h
  | cons turn turns ih => exact ih (follows_step h turn)

end follows

end Gathering
end SlimA2a
