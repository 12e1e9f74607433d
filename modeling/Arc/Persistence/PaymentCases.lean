/-
Case rows by logical identity.

A case is found by its reference, which is determined by what it is about: the kind
and the external identifier.  The unique constraint on the reference decides who
creates it.
-/
import Arc.Domain.Models

namespace Arc

open Store

variable [Platform]

structure GetOrCreateCaseResult where
  db : Db
  created : Bool
  paymentCase : PaymentCase

def deterministicCaseReference (identityKind : CaseIdentityKind) (externalId : String) :
    Except Error CaseReference :=
  if externalId = "" ∨ 100 < externalId.length then
    .error (.casePersistence "Case identity is missing or invalid")
  else
    .ok ⟨identityKind, Platform.caseDigest (identityKind.value ++ ":" ++ externalId)⟩

/-- The row with a reference. -/
def Db.caseByReference (db : Db) (reference : CaseReference) : Option PaymentCase :=
  db.cases.first? fun c => c.caseReference == reference

def lockCaseByIdentity (db : Db) (identityKind : CaseIdentityKind) (externalId : String) :
    Except Error (Option PaymentCase) := do
  let reference ← deterministicCaseReference identityKind externalId
  return db.caseByReference reference

/-- The row a case starts as. -/
def newPaymentCase (reference : CaseReference) (identityKind : CaseIdentityKind)
    (externalId merchantId : String) (customerId : Option String) (newId : Uuid)
    (detectedAt : Int) : PaymentCase where
  id := newId
  caseReference := reference
  merchantId := merchantId
  paymentId := if identityKind = .payment then some externalId else none
  subscriptionId := if identityKind = .subscription then some externalId else none
  customerId := customerId
  detectedAt := detectedAt

/-- Insert unless the reference is taken, then read the row back. -/
def getOrCreateCase (db : Db) (identityKind : CaseIdentityKind) (externalId merchantId : String)
    (customerId : Option String) (newId : Uuid) (detectedAt : Int) :
    Except Error GetOrCreateCaseResult := do
  let reference ← deterministicCaseReference identityKind externalId
  match db.caseByReference reference with
  | some row => return ⟨db, false, row⟩
  | none =>
      let row := newPaymentCase reference identityKind externalId merchantId customerId newId
        detectedAt
      let cases ← requireSome (db.cases.insert? row) .integrity
      return ⟨{ db with cases := cases }, true, row⟩

theorem deterministicCaseReference_eq_ok {kind : CaseIdentityKind} {externalId : String}
    {reference : CaseReference} :
    deterministicCaseReference kind externalId = .ok reference ↔
      externalId ≠ "" ∧ externalId.length ≤ 100 ∧
        reference = ⟨kind, Platform.caseDigest (kind.value ++ ":" ++ externalId)⟩ := by
  unfold deterministicCaseReference
  split
  · rename_i h
    constructor
    · intro h'
      cases h'
    · rintro ⟨hne, hle, -⟩
      rcases h with h | h
      · exact absurd h hne
      · omega
  · rename_i h
    rw [not_or] at h
    constructor
    · intro h'
      cases h'
      exact ⟨h.1, by omega, rfl⟩
    · rintro ⟨-, -, rfl⟩
      rfl

end Arc
