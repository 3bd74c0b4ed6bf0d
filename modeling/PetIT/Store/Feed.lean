/-
A receiver that is sent the states of a changing source over a channel, first in first out, for any type of
states. If the source only ever goes up in a transitive relation, then so does what the receiver sees, however
late it sees it; and once nothing is on its way, it has seen the last state sent.
-/
import Mathlib.Tactic

namespace Store

/-- What the receiver has seen, oldest first, and what is on its way to it. -/
structure Feed (α : Type) where
  seen : List α := []
  inbox : List α := []

namespace Feed

variable {α : Type} {R : α → α → Prop} {f f' : Feed α} {src src' a b : α}

/-- Whatever was sent, oldest first. -/
def sent (f : Feed α) : List α := f.seen ++ f.inbox

/-- A state is sent. -/
def send (f : Feed α) (a : α) : Feed α := { f with inbox := f.inbox ++ [a] }

/-- The oldest state on its way arrives. -/
def receive (f : Feed α) : Option (α × Feed α) :=
  match f.inbox with
  | [] => none
  | a :: rest => some (a, ⟨f.seen ++ [a], rest⟩)

/-- The state that was seen last. -/
def shown (f : Feed α) : Option α := f.seen.getLast?

/-- The states sent go up in the relation, and up to the present one. -/
def Ordered (R : α → α → Prop) (f : Feed α) (src : α) : Prop := (f.sent ++ [src]).Pairwise R

/-! ## Sending and receiving -/

@[simp] theorem seen_send (f : Feed α) (a : α) : (f.send a).seen = f.seen := rfl

@[simp] theorem sent_send (f : Feed α) (a : α) : (f.send a).sent = f.sent ++ [a] :=
  (List.append_assoc _ _ _).symm

theorem receive_some (h : f.receive = some (a, f')) : f'.seen = f.seen ++ [a] ∧ f'.sent = f.sent := by
  unfold receive at h
  split at h
  · cases h
  · rename_i b rest hin
    cases h
    refine ⟨rfl, ?_⟩
    unfold sent
    rw [hin, List.append_assoc, List.singleton_append]

theorem shown_receive (h : f.receive = some (a, f')) : f'.shown = some a := by
  unfold shown
  rw [(receive_some h).1, List.getLast?_concat]

theorem mem_sent_of_shown (h : f.shown = some a) : a ∈ f.sent :=
  List.mem_append_left _ (List.mem_of_getLast? h)

/-- With nothing on its way, the receiver has seen the last state sent. -/
theorem shown_of_inbox (h : f.inbox = []) : f.shown = f.sent.getLast? := by
  unfold shown sent
  rw [h, List.append_nil]

theorem seen_receive (h : f.receive = some (a, f')) : f.seen <+: f'.seen := by
  rw [(receive_some h).1]
  exact List.prefix_append _ _

/-! ## Every step keeps the order -/

theorem Ordered.empty : Ordered R {} src := List.pairwise_singleton R src

theorem Ordered.imp {S : α → α → Prop} (h : f.Ordered R src) (hrs : ∀ a b, R a b → S a b) : f.Ordered S src :=
  List.Pairwise.imp (fun {a b} => hrs a b) h

theorem Ordered.send (h : f.Ordered R src) (hrefl : R src src) : (f.send src).Ordered R src := by
  unfold Ordered at *
  rw [sent_send]
  refine List.pairwise_append.2 ⟨h, List.pairwise_singleton _ _, fun a ha b hb => ?_⟩
  rw [List.mem_singleton] at hb
  subst hb
  rcases List.mem_append.1 ha with ha | ha
  · exact (List.pairwise_append.1 h).2.2 a ha b (by simp)
  · rw [List.mem_singleton] at ha
    subst ha; exact hrefl

theorem Ordered.receive (h : f.Ordered R src) (hr : f.receive = some (a, f')) : f'.Ordered R src := by
  unfold Ordered
  rw [(receive_some hr).2]
  exact h

/-- The source goes up. -/
theorem Ordered.source (h : f.Ordered R src) (htrans : ∀ a b c, R a b → R b c → R a c) (hs : R src src') :
    f.Ordered R src' := by
  obtain ⟨hp, -, hsrc⟩ := List.pairwise_append.1 h
  refine List.pairwise_append.2 ⟨hp, List.pairwise_singleton _ _, fun a ha b hb => ?_⟩
  rw [List.mem_singleton] at hb
  subst hb
  exact htrans a src b (hsrc a ha src (by simp)) hs

/-! ## What the receiver sees -/

theorem Ordered.seen (h : f.Ordered R src) : f.seen.Pairwise R :=
  (List.pairwise_append.1 (List.pairwise_append.1 h).1).1

/-- What is shown after more has been seen is above what was shown. -/
theorem Ordered.shown_rel (h : f'.Ordered R src) (hrefl : ∀ a, R a a) (hpre : f.seen <+: f'.seen)
    (ha : f.shown = some a) (hb : f'.shown = some b) : R a b := by
  obtain ⟨rest, hrest⟩ := hpre
  have hs := h.seen
  rw [← hrest] at hs
  unfold shown at hb
  rw [← hrest] at hb
  rcases rest with _ | ⟨x, rest⟩
  · rw [List.append_nil] at hb
    have hab := ha.symm.trans hb
    cases hab; exact hrefl a
  · rw [List.getLast?_append_of_ne_nil _ (List.cons_ne_nil x rest)] at hb
    exact (List.pairwise_append.1 hs).2.2 a (List.mem_of_getLast? ha) b (List.mem_of_getLast? hb)

end Feed

end Store
