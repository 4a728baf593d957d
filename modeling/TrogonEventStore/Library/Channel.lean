import Mathlib.Data.List.Infix

/-- A channel with its messages: those that were taken, those that wait, and those that were lost
when it was closed. -/
structure Channel (Message : Type) (bound : Nat) where
  taken : List Message
  queue : List Message
  lost : List Message
  isOpen : Bool
  room : queue.length ≤ bound
  kept : isOpen = true → lost = []
  emptied : isOpen = false → queue = []

namespace Channel

variable {Message : Type} {bound : Nat}

def opened (message : Message) (positive : 0 < bound) : Channel Message bound where
  taken := []
  queue := [message]
  lost := []
  isOpen := true
  room := positive
  kept _ := rfl
  emptied impossible := nomatch impossible

variable (channel : Channel Message bound)

def sent : List Message := channel.taken ++ channel.queue ++ channel.lost

def Free : Prop := channel.isOpen = true ∧ channel.queue.length < bound

instance : Decidable channel.Free := inferInstanceAs (Decidable (_ ∧ _))

def send (message : Message) : Option (Channel Message bound) :=
  if free : channel.Free then
    some { channel with
      queue := channel.queue ++ [message]
      room := by
        rw [List.length_append, List.length_singleton]
        exact free.2
      emptied closed := nomatch closed.symm.trans free.1 }
  else none

def take : Option (Channel Message bound) :=
  match waiting : channel.queue with
  | [] => none
  | message :: rest => some { channel with
      taken := channel.taken ++ [message]
      queue := rest
      room := by
        have room := channel.room
        rw [waiting, List.length_cons] at room
        exact Nat.le_of_succ_le room
      emptied closed := nomatch waiting.symm.trans (channel.emptied closed) }

def close : Channel Message bound where
  taken := channel.taken
  queue := []
  lost := channel.queue ++ channel.lost
  isOpen := false
  room := Nat.zero_le bound
  kept impossible := nomatch impossible
  emptied _ := rfl

variable {channel} {next : Channel Message bound} {message : Message}

theorem send_cases (done : channel.send message = some next) :
    channel.Free ∧ next.isOpen = true ∧ next.taken = channel.taken ∧
      next.sent = channel.sent ++ [message] := by
  rw [send] at done
  split at done
  · next free =>
      cases done
      refine ⟨free, free.1, rfl, ?_⟩
      simp only [sent, channel.kept free.1, List.append_nil, List.append_assoc]
  · cases done

theorem take_cases (done : channel.take = some next) :
    next.isOpen = channel.isOpen ∧ next.sent = channel.sent ∧
      channel.taken <+: next.taken := by
  unfold take at done
  split at done
  · cases done
  · next message rest waiting =>
      cases done
      refine ⟨rfl, ?_, List.prefix_append _ _⟩
      simp only [sent, waiting, List.append_assoc, List.cons_append, List.nil_append]

theorem take_closed (closed : channel.isOpen = false) : channel.take = none := by
  unfold take
  split
  · rfl
  · next waiting => cases waiting.symm.trans (channel.emptied closed)

theorem sent_close : channel.close.sent = channel.sent := by
  simp only [sent, close, List.append_assoc, List.nil_append]

/-- The receiver gets the messages in the order they were sent in, without gaps. -/
theorem taken_prefix : channel.taken <+: channel.sent := by
  rw [sent, List.append_assoc]
  exact List.prefix_append _ _

theorem taken_queue (isOpen : channel.isOpen = true) :
    channel.taken ++ channel.queue = channel.sent := by
  rw [sent, channel.kept isOpen, List.append_nil]

end Channel
