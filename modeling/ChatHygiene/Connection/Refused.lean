import ChatHygiene.Connection.Store
import ChatHygiene.Connection.Withheld
/-!
# Responses that are refused

A response that neither installs, refreshes nor replaces the trusted connection
may still write: a stale one takes rights away, a conflicting one closes the
gate, an ambiguous one drops the connection. None of these grants anything.
-/

namespace ChatHygiene

open Txn (commit)

variable {db db' : Database}

/-- The write says that the response was taken. -/
def TrustedConnectionWrite.succeeds : TrustedConnectionWrite → Bool
  | .installed | .reconciled | .replaced => true
  | _ => false

/-- **No connection is created, and none gains anything**; it may be gone. -/
def Restricted (db db' : Database) : Prop :=
  ∀ c' ∈ db'.businessConnection.rows, ∃ c ∈ db.businessConnection.rows, c.Withholds c'

theorem Withheld.restricted (h : Withheld db db') : Restricted db db' := fun _ hc' => h.row hc'

protected theorem Restricted.refl (db : Database) : Restricted db db :=
  (Withheld.refl db).restricted

theorem SameReconciled.withholds {t row : BusinessConnectionRecord}
    {a : BusinessConnectionCandidate} {expected : Option Nat} {write : TrustedConnectionWrite}
    (h : SameReconciled t a expected write row) (hwrite : write.succeeds = false) :
    t.Withholds row := by
  cases h with
  | kept => exact .refl t
  | lessened => exact t.lessened_withholds a
  | gated => exact t.gated_withholds true a.observedAt
  | refreshed => cases hwrite

/-- Of the endings of a reconciliation, the refusals restrict. -/
theorem Reconciled.restricted {a : BusinessConnectionCandidate} {expected : Option Nat}
    {write : TrustedConnectionWrite} (h : Reconciled a expected db db' write)
    (hwrite : write.succeeds = false) : Restricted db db' := by
  intro c' hc'
  cases h with
  | conflict hconflict hsame =>
    rw [hsame] at hc'
    exact ⟨c', hc', .refl c'⟩
  | same t row ht hid hsame hrows =>
    rw [hrows, List.mem_singleton] at hc'
    have hmem : t ∈ db.businessConnection.rows := by simp [ht]
    exact ⟨t, hmem, hc' ▸ hsame.withholds hwrite⟩
  | ambiguous t ht hne hcurrent hgeneration hrows =>
    rw [hrows] at hc'
    cases hc'
  | installed | replaced => cases hwrite

/-- **A response that does not succeed only restricts**: whatever is stored and whatever revisions
are expected, every connection afterwards was there before, of the same user and generation, with at
least the same rights, enabled and confirmed if it is now. -/
theorem refused_response_restricts (db : Database) (authoritative : BusinessConnectionCandidate)
    (expectedTrustedRevision expectedCandidateRevision : Option Nat) (expectedGuardRevision : Nat)
    (h : ∀ write, (commit (reconcileAuthoritativeTrustedConnection authoritative
      expectedTrustedRevision expectedCandidateRevision expectedGuardRevision) db).2 = .ok write →
        write ≠ .installed ∧ write ≠ .reconciled ∧ write ≠ .replaced) :
    ∀ c' ∈ (commit (reconcileAuthoritativeTrustedConnection authoritative
      expectedTrustedRevision expectedCandidateRevision expectedGuardRevision)
        db).1.businessConnection.rows,
      ∃ c ∈ db.businessConnection.rows, c.connectionId = c'.connectionId ∧
        c.ownerUserId = c'.ownerUserId ∧
        c.connectionEstablishedAt = c'.connectionEstablishedAt ∧
        (c'.enabled = true → c.enabled = true) ∧ c'.rights ≤ c.rights ∧
        (c'.reconciliationState = .confirmed → c.reconciliationState = .confirmed) := by
  have hrestricted : Restricted db (commit (reconcileAuthoritativeTrustedConnection authoritative
      expectedTrustedRevision expectedCandidateRevision expectedGuardRevision) db).1 := by
    cases hx : reconcileAuthoritativeTrustedConnection authoritative expectedTrustedRevision
        expectedCandidateRevision expectedGuardRevision db with
    | error error =>
      rw [Txn.commit_of_error hx]
      exact .refl db
    | ok r =>
      rw [Txn.commit_of_ok hx] at h ⊢
      obtain ⟨hinstalled, hreconciled, hreplaced⟩ := h r.1 rfl
      refine (reconcileAuthoritativeTrustedConnection_ok hx).restricted ?_
      cases hwrite : r.1 with
      | installed => exact absurd hwrite hinstalled
      | reconciled => exact absurd hwrite hreconciled
      | replaced => exact absurd hwrite hreplaced
      | _ => rfl
  intro c' hc'
  obtain ⟨c, hc, hwithholds⟩ := hrestricted c' hc'
  exact ⟨c, hc, hwithholds.connectionId.symm, hwithholds.ownerUserId.symm,
    hwithholds.established.symm, hwithholds.enabled, hwithholds.rights, hwithholds.confirmed⟩

section

open Sample

/-- The store with the connection `c` of generation 200. -/
def connectedStore : Database :=
  (ConnectionOp.reconcile (candidateOf "c" 200 rights) none none 0).after claimedStore

/-- A response about `c` that is asked for without a revision of `c`. -/
def staleResponse : Uow TrustedConnectionWrite :=
  reconcileAuthoritativeTrustedConnection (candidateOf "c" 200 ⟨true, false, false, true⟩) none none 0

theorem staleResponse_conflicts :
    (commit staleResponse connectedStore).2 = .ok .revisionConflict := by
  decide +kernel

/-- The stale response takes two rights from the connection, and gives none. -/
theorem refused_response_restricts_stale :
    connectedStore.businessConnection.rows.any (·.rights = rights) = true ∧
    (commit staleResponse connectedStore).1.businessConnection.rows.any
      (·.rights = ⟨true, false, false, true⟩) = true ∧
    ∀ c' ∈ (commit staleResponse connectedStore).1.businessConnection.rows,
      ∃ c ∈ connectedStore.businessConnection.rows, c.connectionId = c'.connectionId ∧
        c.ownerUserId = c'.ownerUserId ∧
        c.connectionEstablishedAt = c'.connectionEstablishedAt ∧
        (c'.enabled = true → c.enabled = true) ∧ c'.rights ≤ c.rights ∧
        (c'.reconciliationState = .confirmed → c.reconciliationState = .confirmed) := by
  refine ⟨by decide +kernel, by decide +kernel, refused_response_restricts _ _ _ _ _ ?_⟩
  intro write hwrite
  obtain rfl : TrustedConnectionWrite.revisionConflict = write :=
    Except.ok.inj (staleResponse_conflicts.symm.trans hwrite)
  simp

end

end ChatHygiene
