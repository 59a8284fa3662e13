import Mathlib.Data.List.Basic

/-!
# Mailboxes

A queue of messages that one receiver takes from its front, and that may be emptied.  It keeps what
was ever sent, and how many messages have left the queue: a message is known by its number.
-/

namespace Universal7870.Lib

structure Mailbox (α : Type*) where
  queue : List α := []
  sent : List α := []
  taken : Nat := 0
  taken_le : taken ≤ sent.length := by decide
  drop_taken : sent.drop taken = queue := by rfl

namespace Mailbox

variable {α β : Type*} {b : Mailbox α} {m : α} {rest : List α}

def post (b : Mailbox α) (m : α) : Mailbox α where
  queue := b.queue ++ [m]
  sent := b.sent ++ [m]
  taken := b.taken
  taken_le := by
    rw [List.length_append]
    exact Nat.le_add_right_of_le b.taken_le
  drop_taken := by rw [List.drop_append_of_le_length b.taken_le, b.drop_taken]

theorem lt_of_queue (h : b.queue = m :: rest) : b.taken < b.sent.length := by
  have hlen := congrArg List.length (b.drop_taken.trans h)
  rw [List.length_drop, List.length_cons] at hlen
  omega

theorem drop_succ_taken (h : b.queue = m :: rest) : b.sent.drop (b.taken + 1) = rest := by
  rw [← List.drop_drop, b.drop_taken, h, List.drop_one, List.tail_cons]

/-- The message at the front has the number of the messages that have left. -/
theorem sent_taken (h : b.queue = m :: rest) : b.sent[b.taken]? = some m := by
  have hhead := congrArg (fun l => l[0]?) (b.drop_taken.trans h)
  rw [List.getElem?_drop, Nat.add_zero] at hhead
  exact hhead

/-- The mailbox without the message at its front. -/
def behind (b : Mailbox α) (rest : List α) (h : b.queue = m :: rest) : Mailbox α where
  queue := rest
  sent := b.sent
  taken := b.taken + 1
  taken_le := lt_of_queue h
  drop_taken := drop_succ_taken h

def clear (b : Mailbox α) : Mailbox α where
  queue := []
  sent := b.sent
  taken := b.sent.length
  taken_le := Nat.le_refl _
  drop_taken := List.drop_length

/-- What was taken, and what waits. -/
theorem take_append_queue (b : Mailbox α) : b.sent.take b.taken ++ b.queue = b.sent := by
  rw [← b.drop_taken, List.take_append_drop]

theorem take_succ_taken (h : b.queue = m :: rest) :
    b.sent.take (b.taken + 1) = b.sent.take b.taken ++ [m] := by
  rw [List.take_add_one, sent_taken h]
  rfl

theorem take_post {n : Nat} (h : n ≤ b.sent.length) : (b.post m).sent.take n = b.sent.take n :=
  List.take_append_of_le_length h

theorem sent_post {n : Nat} (h : n < b.sent.length) : (b.post m).sent[n]? = b.sent[n]? :=
  List.getElem?_append_left h

theorem lt_of_sent {n : Nat} (h : b.sent[n]? = some m) : n < b.sent.length :=
  (List.getElem?_eq_some_iff.mp h).1

end Mailbox

end Universal7870.Lib
