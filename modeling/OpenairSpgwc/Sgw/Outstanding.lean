import OpenairSpgwc.Foundation.Ledger
import OpenairSpgwc.Sgw.Maps
import OpenairSpgwc.Sgw.Pending

/-!
Contract: the S5/S8 requests that are outstanding, and the procedures that wait
for their outcomes.

Owns:
- `requests`, the ledger of the S5/S8 requests without an outcome;
- `WaitsFor`: a procedure sent a request and waits for its outcome;
- `Separate`: pending procedures that no transaction can confuse;
- `Keeps`: connections that a step leaves where they are.
-/

namespace OpenairSpgwc.Sgw

open Foundation
open Std (ExtTreeMap)

/-- The transaction of an S11 response. -/
def Event.answered : Event → Option Nat
  | .s11CreateSessionResponse response => some response.gtpcTxId
  | .s11DeleteSessionResponse response => some response.gtpcTxId
  | .s11ModifyBearerResponse response => some response.gtpcTxId
  | .s11ReleaseAccessBearersResponse response => some response.gtpcTxId
  | _ => none

/-! ### Outstanding requests -/

inductive RequestKind where
  | createSession
  | deleteSession
  | modifyBearer
  | releaseAccessBearers
deriving DecidableEq

structure Outstanding where
  kind : RequestKind
  request : S5s8Request
deriving DecidableEq

namespace Outstanding

def gtpcTxId (q : Outstanding) : Nat := q.request.gtpcTxId

/-- The connection that the request was sent for. -/
def sp (q : Outstanding) : Nat := q.request.sp

/-- The procedure that sent it. -/
def sender (q : Outstanding) : Nat := q.request.sender

def lTeid (q : Outstanding) : Nat := q.request.lTeid

def ofEvent : Event → Option Outstanding
  | .s5s8CreateSessionRequest request => some ⟨.createSession, request⟩
  | .s5s8DeleteSessionRequest request _ => some ⟨.deleteSession, request⟩
  | .s5s8ModifyBearerRequest request _ _ => some ⟨.modifyBearer, request⟩
  | .s5s8ReleaseAccessBearersRequest request => some ⟨.releaseAccessBearers, request⟩
  | _ => none

end Outstanding

namespace State

/-- The outcome of a request: the response to its transaction, addressed to the
connection it was sent for, or the report that the peer does not respond. -/
def reports (s : State) (action : Action) (q : Outstanding) : Bool :=
  match action with
  | .createSessionResponse csresp =>
      q.kind == .createSession && csresp.gtpcTxId == q.gtpcTxId && csresp.teid == s.teidOf q.sp
  | .deleteSessionResponse dsresp =>
      q.kind == .deleteSession && dsresp.gtpcTxId == q.gtpcTxId && dsresp.teid == s.teidOf q.sp
  | .modifyBearerResponse s5resp =>
      q.kind == .modifyBearer && s5resp.gtpcTxId == q.gtpcTxId && s5resp.teid == s.teidOf q.sp
  | .releaseAccessBearersResponse s5resp =>
      q.kind == .releaseAccessBearers && s5resp.gtpcTxId == q.gtpcTxId &&
        s5resp.teid == s.teidOf q.sp
  | .remotePeerNotResponding resp => resp.gtpcTxId == q.gtpcTxId && resp.lTeid == q.lTeid
  | _ => false

/-- The ledger of the S5/S8 requests without an outcome. -/
def requests : Ledger State Action Event Outstanding where
  opens _ events := events.filterMap Outstanding.ofEvent
  closes := reports

variable {s t u : State} {lost : Nat → Prop}

/-- The context holds the connection. -/
def HeldBy (s : State) (ebc sp : Nat) : Prop :=
  ∃ key : Kpdn, (s.contexts ebc).pdnConnections[key]? = some sp

/-- Connections are still held and keep their TEID, except the lost ones. -/
def Keeps (s t : State) (lost : Nat → Prop) : Prop :=
  ∀ ebc sp, HeldBy s ebc sp → ¬lost sp → HeldBy t ebc sp ∧ t.teidOf sp = s.teidOf sp

theorem Keeps.refl (s : State) : Keeps s s fun _ => False :=
  fun _ _ held _ => ⟨held, rfl⟩

theorem Keeps.mono (keeps : Keeps s t lost) {more : Nat → Prop}
    (implies : ∀ sp, lost sp → more sp) :
    Keeps s t more :=
  fun ebc sp held kept => keeps ebc sp held fun gone => kept (implies sp gone)

theorem Keeps.trans {more : Nat → Prop} (first : Keeps s t lost) (second : Keeps t u more) :
    Keeps s u fun sp => lost sp ∨ more sp := by
  intro ebc sp held kept
  obtain ⟨still, same⟩ := first ebc sp held fun gone => kept (.inl gone)
  obtain ⟨stays, equal⟩ := second ebc sp still fun gone => kept (.inr gone)
  exact ⟨stays, equal.trans same⟩

theorem SameTables.keeps (same : SameTables s t) : Keeps s t fun _ => False := by
  intro ebc sp held _
  refine ⟨?_, same.teids sp⟩
  unfold HeldBy
  rw [same.connections]
  exact held

end State

/-! ### Procedures that wait -/

/-- The procedure sent the request and waits for its outcome. -/
def Procedure.WaitsFor (proc : Procedure) (q : Outstanding) : Prop :=
  proc.address = q.sender ∧
    match q.kind with
    | .createSession => proc.gtpcTxId = q.gtpcTxId ∧ ∃ msg, proc.kind = .createSession msg
    | .deleteSession => proc.gtpcTxId = q.gtpcTxId ∧ ∃ msg, proc.kind = .deleteSession msg q.sp
    | .modifyBearer =>
        ∃ request pdnBearers modified marked px,
          proc.kind = .modifyBearer request pdnBearers modified marked ∧
            (pdnBearers.find? fun px => px.gtpcTxId == q.gtpcTxId) = some px ∧ px.pdn = q.sp
    | .releaseAccessBearers =>
        proc.gtpcTxId = q.gtpcTxId ∧
          ∃ request cause, proc.kind = .releaseAccessBearers request [⟨q.sp, q.gtpcTxId⟩] cause

theorem Procedure.WaitsFor.hasTrxnId {proc : Procedure} {q : Outstanding}
    (waits : proc.WaitsFor q) : proc.hasTrxnId q.gtpcTxId = true := by
  obtain ⟨-, waits⟩ := waits
  unfold Procedure.hasTrxnId
  cases kind : q.kind with
  | createSession =>
      rw [kind] at waits
      rw [waits.1, beq_self_eq_true, Bool.true_or]
  | deleteSession =>
      rw [kind] at waits
      rw [waits.1, beq_self_eq_true, Bool.true_or]
  | modifyBearer =>
      rw [kind] at waits
      obtain ⟨request, pdnBearers, modified, marked, px, isModify, found, -⟩ := waits
      rw [isModify]
      have there : (pdnBearers.any fun px => px.gtpcTxId == q.gtpcTxId) = true :=
        List.any_eq_true.mpr ⟨px, List.mem_of_find?_eq_some found, by
          simpa using List.find?_some found⟩
      simp only [there, Bool.or_true]
  | releaseAccessBearers =>
      rw [kind] at waits
      rw [waits.1, beq_self_eq_true, Bool.true_or]

/-- The procedures have neither the address nor a transaction in common. -/
def Procedure.Apart (first second : Procedure) : Prop :=
  first.address ≠ second.address ∧
    ∀ id, ¬(first.hasTrxnId id = true ∧ second.hasTrxnId id = true)

instance : Std.Symm Procedure.Apart where
  symm _ _ apart := ⟨apart.1.symm, fun id both => apart.2 id both.symm⟩

/-- No two procedures have an address or a transaction in common. -/
def Separate (pending : List Procedure) : Prop := pending.Pairwise Procedure.Apart

namespace Separate

variable {pending : List Procedure} {proc other : Procedure} {id address : Nat}

theorem eq_of_hasTrxnId (separate : Separate pending) (member : proc ∈ pending)
    (otherMember : other ∈ pending) (has : proc.hasTrxnId id = true)
    (otherHas : other.hasTrxnId id = true) : other = proc := by
  by_contra different
  exact (List.Pairwise.forall separate otherMember member different).2 id ⟨otherHas, has⟩

theorem eq_of_address (separate : Separate pending) (member : proc ∈ pending)
    (otherMember : other ∈ pending) (same : other.address = proc.address) : other = proc := by
  by_contra different
  exact (List.Pairwise.forall separate otherMember member different).1 same

/-- A transaction leads to the procedure that has it. -/
theorem find?_eq (separate : Separate pending) (member : proc ∈ pending)
    (has : proc.hasTrxnId id = true) :
    (pending.find? fun proc => proc.hasTrxnId id) = some proc := by
  cases found : pending.find? fun proc => proc.hasTrxnId id with
  | none => exact absurd has (List.find?_eq_none.mp found proc member)
  | some other =>
      have otherHas := List.find?_some found
      rw [separate.eq_of_hasTrxnId member (List.mem_of_find?_eq_some found) has otherHas]

theorem append (separate : Separate pending)
    (apart : ∀ old ∈ pending, old.address ≠ proc.address)
    (fresh : ∀ old ∈ pending, ∀ id, proc.hasTrxnId id = true → old.hasTrxnId id = false) :
    Separate (pending ++ [proc]) := by
  unfold Separate
  rw [List.pairwise_append]
  refine ⟨separate, List.pairwise_singleton _ _, fun old member new here => ?_⟩
  rw [List.mem_singleton.mp here]
  refine ⟨apart old member, fun id both => ?_⟩
  rw [fresh old member id both.2] at both
  exact Bool.false_ne_true both.1

theorem eraseP (separate : Separate pending) {answered : Procedure → Bool} :
    Separate (pending.eraseP answered) :=
  List.Pairwise.sublist List.eraseP_sublist separate

/-- A procedure may give up transactions. -/
theorem set (separate : Separate pending) {kind : ProcedureKind}
    (fewer : ∀ proc ∈ pending, proc.address = address → ∀ id,
      Procedure.hasTrxnId { proc with kind := kind } id = true → proc.hasTrxnId id = true) :
    Separate (pending.map fun proc =>
      if proc.address = address then { proc with kind := kind } else proc) := by
  have fewer : ∀ proc ∈ pending, ∀ id,
      Procedure.hasTrxnId (if proc.address = address then { proc with kind := kind } else proc)
        id = true → proc.hasTrxnId id = true := by
    intro proc member id has
    split at has
    · next here => exact fewer proc member here id has
    · exact has
  have same : ∀ proc : Procedure, Procedure.address
      (if proc.address = address then { proc with kind := kind } else proc) = proc.address := by
    intro proc
    split <;> rfl
  unfold Separate
  rw [List.pairwise_map]
  refine List.Pairwise.imp_of_mem ?_ separate
  intro first second firstMember secondMember apart
  refine ⟨?_, fun id both => ?_⟩
  · rw [same, same]
    exact apart.1
  · exact apart.2 id ⟨fewer first firstMember id both.1, fewer second secondMember id both.2⟩

end Separate

end OpenairSpgwc.Sgw
