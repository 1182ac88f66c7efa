import Wifibot.Library.Simulation

set_option relaxedAutoImplicit false
set_option autoImplicit false

/-!
# Unreliable channels

A channel for datagrams loses them, delivers them twice, and delivers them in another order than
they were sent in. It invents none: what it delivers was sent before.

## Main definitions

* `Channel.Event` — what a client and the network do to the messages in flight.
* `channel` — the channel; its outputs are what it delivers.

## Main results

* `sent_of_mem_channel`, `sent_of_delivered` — what is in flight, and what is delivered, was sent.
-/

variable {α : Type*}

/-- A message is sent; one in flight is lost, is doubled, or is delivered, whichever it is. -/
inductive Channel.Event (α : Type*)
  | send (a : α)
  | lose (i : ℕ)
  | duplicate (i : ℕ)
  | deliver (i : ℕ)

/-- **The channel**: its state is the list of the messages in flight. -/
def channel (α : Type*) : Machine (List α) (Channel.Event α) α where
  step inFlight
    | .send a => (inFlight ++ [a], [])
    | .lose i => (inFlight.eraseIdx i, [])
    | .duplicate i => (inFlight ++ inFlight[i]?.toList, [])
    | .deliver i => (inFlight.eraseIdx i, inFlight[i]?.toList)

/-- After a step a message in flight was in flight before, or has just been sent. -/
lemma mem_channel_next {l : List α} {e : Channel.Event α} {a : α}
    (ha : a ∈ (channel α).next l e) : a ∈ l ∨ e = .send a := by
  cases e with
  | send b =>
    rcases List.mem_append.mp ha with ha | ha
    · exact Or.inl ha
    · exact Or.inr (by rw [List.mem_singleton.mp ha])
  | lose i => exact Or.inl ((List.eraseIdx_sublist l i).subset ha)
  | duplicate i =>
    rcases List.mem_append.mp ha with ha | ha
    · exact Or.inl ha
    · exact Or.inl (List.mem_of_getElem? (Option.mem_toList.mp ha))
  | deliver i => exact Or.inl ((List.eraseIdx_sublist l i).subset ha)

/-- **What is in flight was sent.** -/
lemma sent_of_mem_channel {es : List (Channel.Event α)} {a : α}
    (ha : a ∈ (channel α).run [] es) : .send a ∈ es := by
  have hrun : ∀ l, a ∈ (channel α).run l es → a ∈ l ∨ .send a ∈ es := by
    clear ha
    induction es with
    | nil => exact fun l ha => Or.inl ha
    | cons e es ih =>
      intro l ha
      rcases ih _ ha with ha | ha
      · rcases mem_channel_next ha with ha | rfl
        · exact Or.inl ha
        · exact Or.inr List.mem_cons_self
      · exact Or.inr (List.mem_cons_of_mem e ha)
  rcases hrun [] ha with ha | ha
  · simp at ha
  · exact ha

/-- **What is delivered was sent before.** -/
lemma sent_of_delivered {es : List (Channel.Event α)} {i : ℕ} {a : α}
    (ha : ((channel α).run [] es)[i]? = some a) : .send a ∈ es :=
  sent_of_mem_channel (List.mem_of_getElem? ha)
