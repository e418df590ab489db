import OpenairSpgwc.Pgw.Directory

/-!
Contract: the APN contexts of a UE and their access point names.

Whether an APN context exists is decided by a search that also asks for a connection of it
with the destination TEID of the request.

Owns:
- `OneApnContextEach`: no two APN contexts of a context have one name, none is empty, and the
  search by name and TEID finds every connection;
- when this holds along a run.
-/

namespace OpenairSpgwc.Pgw

open Foundation
open OpenairSpgwc.Common
open Std (ExtTreeMap)

/-- With different names, a search by name finds the entry of that name. -/
theorem find?_name_of_nodup {α : Type} {name : α → String} {entries : List α} {entry : α}
    (nodup : (entries.map name).Nodup) (member : entry ∈ entries) :
    entries.find? (fun other => name entry == name other) = some entry := by
  induction entries with
  | nil => cases member
  | cons first rest inductionHypothesis =>
      rw [List.map_cons, List.nodup_cons] at nodup
      cases List.mem_cons.mp member with
      | inl here =>
          rw [here]
          exact List.find?_cons_of_pos (by simp)
      | inr later =>
          have different : name entry ≠ name first := by
            intro same
            exact nodup.1 (same ▸ List.mem_map_of_mem later)
          rw [List.find?_cons_of_neg (by simpa using different)]
          exact inductionHypothesis nodup.2 later

namespace State

variable {config : Config} {s t : State} {request : CreateSessionRequest} {upNode : UpNode}
  {events : List Event} {pc sa sp teid endValue : Nat} {label : String}

/-- The access point names of the APN contexts of a context. -/
def apnsInUse (s : State) (pc : Nat) : List String :=
  (s.contexts pc).apns.map fun sa => (s.apnContexts sa).apnInUse

structure OneApnContextEach (s : State) : Prop where
  unique : ∀ pc, (s.apnsInUse pc).Nodup
  nonempty : ∀ pc, ∀ sa ∈ (s.contexts pc).apns, (s.apnContexts sa).pdnConnections ≠ []
  found : ∀ pc, ∀ sa ∈ (s.contexts pc).apns, ∀ sp ∈ (s.apnContexts sa).pdnConnections,
    s.findPdnConnectionOfApn pc (s.apnContexts sa).apnInUse
      (s.pdnConnections sp).pgwFteidS5S8Cp.teidGreKey true = some (sa, sp)

/-- A Create Session Request that is handed to a context which has an APN context of that
name has the local TEID of its connection. -/
def NamesConnection (config : Config) (s : State) : Action → Prop
  | .createSession request _ _ => ∀ pc before, s.route config request = .context pc before →
      ∀ sa ∈ (s.contexts pc).apns, (s.apnContexts sa).apnInUse = request.apn →
        request.teid = s.teidOf sa
  | _ => True

/-! ## The search by name -/

theorem Registered.findPdnConnectionOfApn_eq (registered : Registered s)
    (unique : (s.apnsInUse pc).Nodup) (member : sa ∈ (s.contexts pc).apns) :
    s.findPdnConnectionOfApn pc (s.apnContexts sa).apnInUse teid true =
      if s.teidOf sa = teid then some (sa, sa + 1) else none := by
  unfold findPdnConnectionOfApn findApnContext
  rw [find?_name_of_nodup unique member]
  dsimp only
  rw [registered.findInApn_eq member]
  show (if s.teidOf sa = teid then _ else _ : Option Nat).map _ = _
  split <;> rfl

theorem Registered.oneApnContextEach_iff (registered : Registered s) :
    OneApnContextEach s ↔ ∀ pc, (s.apnsInUse pc).Nodup := by
  refine ⟨OneApnContextEach.unique, fun unique => ⟨unique, ?_, ?_⟩⟩
  · intro pc sa member
    rw [(registered.single pc sa member).1]
    exact List.cons_ne_nil _ _
  · intro pc sa member sp inside
    rw [(registered.single pc sa member).1, List.mem_singleton] at inside
    rw [inside, registered.findPdnConnectionOfApn_eq (unique pc) member]
    exact if_pos rfl

/-! ## Steps -/

theorem SameRegistry.apnsInUse_eq (same : SameRegistry s t) (pc : Nat) :
    t.apnsInUse pc = s.apnsInUse pc := by
  rw [apnsInUse, apnsInUse, same.apns, same.apnContexts]

theorem Registered.apnsInUse_attachedNew (registered : Registered s)
    (new : AttachedNew s pc request teid t) (other : Nat) :
    t.apnsInUse other =
      if other = pc then s.apnsInUse pc ++ [request.apn] else s.apnsInUse other := by
  have older (home : Nat) : ((s.contexts home).apns.map fun sa => (t.apnContexts sa).apnInUse) =
      s.apnsInUse home := by
    refine List.map_congr_left fun sa member => ?_
    have bound := (registered.single home sa member).2
    rw [new.apnContexts, Function.update_of_ne (by omega)]
  unfold apnsInUse
  rw [new.contexts, Function.update_apply]
  split
  · show ((s.contexts pc).apns ++ [s.nextAddress]).map _ = _
    rw [List.map_append, older, List.map_singleton, new.apnContexts, Function.update_self]
    rfl
  · exact older other

theorem Removed.apnsInUse_sublist (registered : Registered s) (member : sa ∈ (s.contexts pc).apns)
    (removed : Removed s pc sa t) (other : Nat) :
    (t.apnsInUse other).Sublist (s.apnsInUse other) := by
  have names : t.apnsInUse other =
      (t.contexts other).apns.map fun sa => (s.apnContexts sa).apnInUse := by
    refine List.map_congr_left fun sa' inside => ?_
    obtain ⟨old, different⟩ := removed.mem_apns registered inside
    rw [removed.apnContexts sa']
    intro same
    rw [same] at old
    exact different (registered.context_eq old member) same
  rw [names, removed.contexts, Function.update_apply]
  split
  · next here =>
      rw [here]
      exact List.erase_sublist.map _
  · exact List.Sublist.refl _

theorem unique_of_releases (registered : Registered s) (unique : ∀ pc, (s.apnsInUse pc).Nodup)
    (releases : Releases s t) : ∀ pc, (t.apnsInUse pc).Nodup := by
  intro other
  cases releases with
  | inl same =>
      rw [same.apnsInUse_eq]
      exact unique other
  | inr gone =>
      obtain ⟨pc, sa, member, after, removed, leaves⟩ := gone
      rw [leaves.apnsInUse_eq]
      exact (unique other).sublist (removed.apnsInUse_sublist registered member other)

/-- A Create Session Request keeps the names apart if and only if it names the connection of
an APN context that is there. -/
theorem unique_create_iff (registered : Registered s) (unique : ∀ pc, (s.apnsInUse pc).Nodup)
    (blank : (s.contexts s.nextAddress).apns = [])
    (handled : s.handleCreateSessionRequest config request upNode endValue = some (t, events)) :
    (∀ pc, (t.apnsInUse pc).Nodup) ↔
      NamesConnection config s (.createSession request upNode endValue) := by
  rcases create_registry blank handled with ⟨ignored, rfl⟩ | ⟨pc, before, routed, rest⟩
  · exact iff_of_true unique fun pc before routed => absurd routed (ignored pc before)
  · have named : NamesConnection config s (.createSession request upNode endValue) ↔
        ∀ sa ∈ (s.contexts pc).apns, (s.apnContexts sa).apnInUse = request.apn →
          request.teid = s.teidOf sa := by
      constructor
      · exact fun all => all pc before routed
      · intro all other before' routed'
        rw [routed] at routed'
        cases routed'
        exact all
    rw [named]
    rcases rest with ⟨found, same⟩ | ⟨missing, teid, arrived, after, arrives, new, leaves⟩
    · have kept : ∀ pc, (t.apnsInUse pc).Nodup := by
        intro other
        rw [same.apnsInUse_eq]
        exact unique other
      refine iff_of_true kept fun sa member name => ?_
      rw [← name, registered.findPdnConnectionOfApn_eq (unique pc) member] at found
      split at found
      · next own => exact own.symm
      · cases found
    · have names (other : Nat) : t.apnsInUse other =
          if other = pc then s.apnsInUse pc ++ [request.apn] else s.apnsInUse other := by
        rw [leaves.apnsInUse_eq, (registered.same arrives).apnsInUse_attachedNew new,
          arrives.apnsInUse_eq, arrives.apnsInUse_eq]
      constructor
      · intro apart sa member name
        have here := apart pc
        rw [names, if_pos rfl] at here
        have twice := (List.nodup_append.mp here).2.2 request.apn
          (name ▸ List.mem_map_of_mem member) request.apn (List.mem_singleton_self _)
        exact absurd rfl twice
      · intro condition other
        rw [names]
        split
        · refine List.nodup_append.mpr ⟨unique pc, List.nodup_singleton _, ?_⟩
          intro name old last only
          obtain ⟨sa, member, own⟩ := List.mem_map.mp old
          rw [List.mem_singleton.mp only]
          intro same
          have named := own.trans same
          rw [← named, registered.findPdnConnectionOfApn_eq (unique pc) member,
            if_pos (condition sa member named).symm] at missing
          cases missing
        · exact unique other

end State

/-! ## Runs -/

namespace Gateway

open State (OneApnContextEach)

variable {config : Config} {g next : Gateway} {events : List Service.Event}

def NamesConnection (config : Config) (g : Gateway) : Service.Action → Prop
  | .session action => g.app.NamesConnection config action
  | _ => True

theorem unique_iff (directory : Directory g) (unique : ∀ pc, (g.app.apnsInUse pc).Nodup)
    {action : Service.Action} (taken : Service.step config g action = some (next, events)) :
    (∀ pc, (next.app.apnsInUse pc).Nodup) ↔ g.NamesConnection config action := by
  have registered := directory.registered
  have kept (releases : g.app.Releases next.app) : ∀ pc, (next.app.apnsInUse pc).Nodup :=
    State.unique_of_releases registered unique releases
  cases step_cases taken with
  | inl session =>
      obtain ⟨inner, shown, rfl, ran⟩ := session
      cases inner with
      | createSession request upNode endValue =>
          exact State.unique_create_iff registered unique directory.blank ran
      | sessionEstablishmentResponse answer =>
          exact iff_of_true
            (kept (State.releases_of_step registered (fun _ _ _ same => by cases same) ran)) trivial
      | deleteSession order sent =>
          exact iff_of_true
            (kept (State.releases_of_step registered (fun _ _ _ same => by cases same) ran)) trivial
      | sessionDeletionResponse answer =>
          exact iff_of_true
            (kept (State.releases_of_step registered (fun _ _ _ same => by cases same) ran)) trivial
  | inr other =>
      have named : g.NamesConnection config action := by
        cases action with
        | session inner => exact absurd rfl (other.1 inner)
        | modifyBearer request sent => trivial
        | releaseAccessBearers request sent => trivial
        | sessionModificationResponse response => trivial
        | sessionReport request sent => trivial
        | downlinkDataNotificationAcknowledge ack => trivial
        | notifyUlError trxnId => trivial
      exact iff_of_true (kept (.inl other.2.toSameRegistry)) named

end Gateway

/-- Along every run, each context has one APN context per access point name, none of them
empty, and finds every connection by name and TEID, if and only if every Create Session Request
for a name that its context has already has the TEID of the connection of that name. -/
theorem one_apn_context_each_iff (config : Config)
    (records : List (StepRecord Gateway Service.Action Service.Event)) (g : Gateway)
    (run : Run (Service.step config) (Gateway.init config.pdns) records g) :
    (∀ record ∈ records, record.after.app.OneApnContextEach) ↔
      ∀ record ∈ records, record.before.NamesConnection config record.action := by
  apply run.forall_records_iff
    (fun g => g.Directory ∧ ∀ pc, (g.app.apnsInUse pc).Nodup) (Gateway.NamesConnection config)
    (fun record => record.after.app.OneApnContextEach)
  · exact ⟨Gateway.directory_init config.pdns, fun pc => List.nodup_nil⟩
  · intro g action next events holds named taken
    exact ⟨holds.1.step taken, (Gateway.unique_iff holds.1 holds.2 taken).mpr named⟩
  · intro g action next events holds taken
    rw [(holds.1.step taken).registered.oneApnContextEach_iff]
    exact Gateway.unique_iff holds.1 holds.2 taken

/-- Two access point names. -/
def twoApns : Config :=
  { pdns := [{ apn := "oai", uePoolRangeLow := 0x0C010102, uePoolRangeHigh := 0x0C010104 },
      { apn := "ims", uePoolRangeLow := 0x0C020102, uePoolRangeHigh := 0x0C020104 }] }

/-- A UE attaches, adds a connection for another name and leaves the first. -/
def twoNames : List Service.Action :=
  [.session (.createSession (oneBearer 1 0 none) .sent 0),
    .session (.createSession { oneBearer 1 0 none with apn := "ims" } .sent 0),
    .session (.deleteSession { teid := 1 } true),
    .session (.sessionDeletionResponse { seid := 1, trxnId := 3, cause := some 1 })]

theorem twoNames_one_each : ∃ records g,
    Run (Service.step twoApns) (Gateway.init twoApns.pdns) records g ∧
      records.map StepRecord.action = twoNames ∧
      ((∀ record ∈ records, record.after.app.OneApnContextEach) ↔
        ∀ record ∈ records, record.before.NamesConnection twoApns record.action) := by
  obtain ⟨records, g, run, same⟩ := Run.exists_of_passes (Service.step twoApns)
    (Gateway.init twoApns.pdns) twoNames
    (fun records _ => records.map StepRecord.action = twoNames) (by decide)
  exact ⟨records, g, run, same, one_apn_context_each_iff twoApns records g run⟩

/-- A second attach request for the same name makes a second APN context. -/
theorem second_attach_duplicates : ¬∀ records g,
    Run (Service.step twoAddresses) (Gateway.init twoAddresses.pdns) records g →
      g.app.OneApnContextEach := by
  intro each
  obtain ⟨records, g, run, same⟩ := Run.exists_of_passes (Service.step twoAddresses)
    (Gateway.init twoAddresses.pdns)
    [.session (.createSession (oneBearer 1 0 none) .sent 0),
      .session (.createSession (oneBearer 1 0 none) .sent 0)]
    (fun _ g => g.app.apnsInUse 0 = ["oai", "oai"]) (by decide)
  have unique := (each records g run).unique 0
  rw [same] at unique
  exact absurd unique (by decide)

end OpenairSpgwc.Pgw
