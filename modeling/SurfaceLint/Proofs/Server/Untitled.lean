import SurfaceLint.Proofs.Server.Session

/-!
# Untitled documents

A check leaves an untitled document alone, but only after it has cleared documents in unknown
languages, and closing or deleting an address clears it whatever its name. All of this can only
take notices away. Since no step publishes for an untitled address, the server never holds
notices for one, and leaving one alone leaves nothing behind that an earlier step had sent.
-/

namespace SurfaceLint

/-- The server has no entry for any untitled document. -/
def Server.HoldsNoUntitled (server : Server) : Prop :=
  ∀ address, Server.isUntitled address = true → server.notices.get? address = none

/-- The server has no entry for any untitled document, and all that was sent for one was an
empty list. -/
structure Outcome.SparesUntitled (outcome : Outcome) : Prop where
  held : outcome.server.HoldsNoUntitled
  sent : ∀ publication ∈ outcome.sent,
    Server.isUntitled publication.address = true → publication.notices = []

theorem Server.holdsNoUntitled_fresh : Server.fresh.HoldsNoUntitled :=
  fun _ _ => rfl

theorem Step.sparesUntitled (step : Step) (h : step.before.HoldsNoUntitled) :
    step.outcome.SparesUntitled := by
  rcases step.hasEffect with ⟨hsent, hheld⟩ | ⟨other, document, -, -, htitled, hsent, hheld, -⟩ |
    ⟨other, -, hsent, hheld, -⟩
  · refine ⟨?_, by simp [hsent]⟩
    rw [Server.HoldsNoUntitled, hheld]
    exact h
  · refine ⟨?_, ?_⟩
    · intro address huntitled
      have hne : address ≠ other := by
        rintro rfl
        simp [htitled] at huntitled
      rw [hheld, Table.get?_insert, if_neg hne]
      exact h address huntitled
    · intro publication hmem huntitled
      rw [hsent, List.mem_singleton] at hmem
      subst hmem
      simp [htitled] at huntitled
  · refine ⟨?_, ?_⟩
    · intro address huntitled
      rw [hheld, Table.get?_erase]
      split
      · rfl
      · exact h address huntitled
    · intro publication hmem _
      rw [hsent, List.mem_singleton] at hmem
      subst hmem
      rfl

theorem Server.HoldsNoUntitled.run {server : Server} (h : server.HoldsNoUntitled)
    (deliveries : List Delivery) :
    ∀ outcome ∈ server.run deliveries, outcome.SparesUntitled := by
  induction deliveries generalizing server with
  | nil => simp [Server.run]
  | cons delivery rest ih =>
    have hstep : (server.handle delivery).SparesUntitled :=
      (Step.mk server delivery).sparesUntitled h
    rw [Server.run, List.forall_mem_cons]
    exact ⟨hstep, ih hstep.held⟩

theorem Server.HoldsNoUntitled.after {server : Server} (h : server.HoldsNoUntitled)
    (deliveries : List Delivery) : (server.after deliveries).HoldsNoUntitled := by
  induction deliveries using List.reverseRecOn with
  | nil => exact h
  | append_singleton deliveries delivery ih =>
    rw [Server.after_append_singleton]
    exact ((Step.mk (server.after deliveries) delivery).sparesUntitled ih).held

theorem isUntitled_append (name : String) : Server.isUntitled ("untitled:" ++ name) = true := by
  rw [Server.isUntitled, Server.untitledScheme, String.toList_append, List.isPrefixOf_iff_prefix]
  exact List.prefix_append _ _

/-- Whatever an editor does, after none of the steps does the server hold notices for an untitled
document, and in none of them does it send any for one: what it sends there, if anything, is an
empty list. So what was last sent for such a document is never out of date, and an inspection
shows that there is no entry. -/
theorem untitled_never_annotated (deliveries : List Delivery) (world : World) (name : String) :
    (∀ outcome ∈ Server.fresh.run deliveries,
      outcome.server.notices.contains ("untitled:" ++ name) = false ∧
      ∀ publication ∈ outcome.sent,
        publication.address = "untitled:" ++ name → publication.notices = []) ∧
    (lastSent? (Server.fresh.run deliveries) ("untitled:" ++ name)).getD [] = [] ∧
    ((Server.fresh.after deliveries).handle ⟨world, .inspected ("untitled:" ++ name)⟩).reply =
      .ok (.held false []) := by
  have huntitled := isUntitled_append name
  have hafter := Server.holdsNoUntitled_fresh.after deliveries _ huntitled
  refine ⟨?_, ?_, ?_⟩
  · intro outcome houtcome
    have hspares := Server.holdsNoUntitled_fresh.run deliveries outcome houtcome
    refine ⟨by rw [Table.contains, hspares.held _ huntitled]; rfl, ?_⟩
    intro publication hmem haddress
    exact hspares.sent publication hmem (haddress ▸ huntitled)
  · rw [← held_eq_lastSent, hafter]
    rfl
  · change Except.ok (Reply.held _ _) = _
    rw [Table.contains, hafter]
    rfl

end SurfaceLint
