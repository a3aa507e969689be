import ChatHygiene.Storage.Writes
/-!
# What a transaction leaves alone

A table that is not among the targets of a transaction's statements is
unchanged by it. `Frame` says so for every table at once, so a caller reads
off the tables it needs.
-/

namespace ChatHygiene

/-- The tables that `targets` do not write to are the same. -/
structure Frame (targets : List Target) (t t' : Tables) : Prop where
  conversation : .conversation ∉ targets → .dropConnection ∉ targets →
    t'.conversation = t.conversation
  messageLedger : .ledger ∉ targets → .dropConnection ∉ targets →
    t'.messageLedger = t.messageLedger
  challenge : .challenge ∉ targets → .dropConnection ∉ targets →
    t'.challenge = t.challenge ∧ t'.challengeSeq = t.challengeSeq
  processedUpdate : .record ∉ targets → .update ∉ targets → .purgeUpdate ∉ targets →
    t'.processedUpdate = t.processedUpdate
  outboxAction : .enqueue ∉ targets → .outbox ∉ targets → .purgeUpdate ∉ targets →
    t'.outboxAction = t.outboxAction
  outboxSeq : .enqueue ∉ targets → t'.outboxSeq = t.outboxSeq
  businessConnection : .connection ∉ targets → .dropConnection ∉ targets →
    t'.businessConnection = t.businessConnection
  destructiveMode : .mode ∉ targets → t'.destructiveMode = t.destructiveMode
  ownerIdentity : .owner ∉ targets → t'.ownerIdentity = t.ownerIdentity
  candidate : .candidate ∉ targets → t'.candidate = t.candidate
  guard : .guard ∉ targets → t'.guard = t.guard
  reconciliation : .reconciliation ∉ targets → t'.reconciliation = t.reconciliation

namespace Frame

variable {targets : List Target}

protected theorem refl (t : Tables) : Frame targets t t := by
  constructor <;> intros <;> first | rfl | exact ⟨rfl, rfl⟩

protected theorem trans {t t' t'' : Tables} (h : Frame targets t t') (h' : Frame targets t' t'') :
    Frame targets t t'' where
  conversation a b := (h'.conversation a b).trans (h.conversation a b)
  messageLedger a b := (h'.messageLedger a b).trans (h.messageLedger a b)
  challenge a b := ⟨(h'.challenge a b).1.trans (h.challenge a b).1,
    (h'.challenge a b).2.trans (h.challenge a b).2⟩
  processedUpdate a b c := (h'.processedUpdate a b c).trans (h.processedUpdate a b c)
  outboxAction a b c := (h'.outboxAction a b c).trans (h.outboxAction a b c)
  outboxSeq a := (h'.outboxSeq a).trans (h.outboxSeq a)
  businessConnection a b := (h'.businessConnection a b).trans (h.businessConnection a b)
  destructiveMode a := (h'.destructiveMode a).trans (h.destructiveMode a)
  ownerIdentity a := (h'.ownerIdentity a).trans (h.ownerIdentity a)
  candidate a := (h'.candidate a).trans (h.candidate a)
  guard a := (h'.guard a).trans (h.guard a)
  reconciliation a := (h'.reconciliation a).trans (h.reconciliation a)

/-- Fewer targets leave more alone. -/
theorem mono {targets' : List Target} {t t' : Tables} (h : Frame targets t t')
    (ht : targets ⊆ targets') : Frame targets' t t' where
  conversation a b := h.conversation (fun m => a (ht m)) (fun m => b (ht m))
  messageLedger a b := h.messageLedger (fun m => a (ht m)) (fun m => b (ht m))
  challenge a b := h.challenge (fun m => a (ht m)) (fun m => b (ht m))
  processedUpdate a b c :=
    h.processedUpdate (fun m => a (ht m)) (fun m => b (ht m)) (fun m => c (ht m))
  outboxAction a b c := h.outboxAction (fun m => a (ht m)) (fun m => b (ht m)) (fun m => c (ht m))
  outboxSeq a := h.outboxSeq fun m => a (ht m)
  businessConnection a b := h.businessConnection (fun m => a (ht m)) (fun m => b (ht m))
  destructiveMode a := h.destructiveMode fun m => a (ht m)
  ownerIdentity a := h.ownerIdentity fun m => a (ht m)
  candidate a := h.candidate fun m => a (ht m)
  guard a := h.guard fun m => a (ht m)
  reconciliation a := h.reconciliation fun m => a (ht m)

end Frame

/-- A statement writes to its target. -/
theorem Statement.Effect.frame {st : Statement} {t t' : Tables} (h : st.Effect t t') :
    Frame [st.target] t t' := by
  cases st with
  | setDestructiveMode value =>
    cases h
    constructor <;> simp
  | _ =>
    simp only [Statement.Effect, Tables.insertConversation, Tables.updateConversation,
      Tables.insertLedger, Tables.updateLedger, Tables.deleteLedger, Tables.insertChallenge,
      Tables.updateChallenge, Tables.deleteChallenge, Tables.insertUpdate,
      Tables.insertOrIgnoreUpdate, Tables.updateUpdate, Tables.deleteUpdate, Tables.insertOutbox,
      Tables.updateOutbox, Tables.deleteOutbox, Tables.insertAudit, Tables.deleteAudit,
      Tables.upsertConnection, Tables.updateConnection, Tables.deleteConnection,
      Tables.insertCandidate, Tables.upsertCandidate, Tables.updateCandidate,
      Tables.deleteCandidate, Tables.updateGuard, Tables.updateReconciliation,
      Tables.updateOwner] at h
    (try obtain ⟨r, h⟩ := h)
    (repeat' split at h) <;> cases h <;> constructor <;> simp

/-- **The frame of a transaction**: what its statements do not write to. -/
theorem WritesTo.frame {targets : List Target} {K : NewOutboxAction → Prop} {db db' : Database}
    (h : WritesTo targets K db db') : Frame targets db.toTables db'.toTables := by
  induction h with
  | refl => exact .refl _
  | tail _ hstep ih =>
    obtain ⟨st, hst, heffect⟩ := hstep
    exact ih.trans (heffect.frame.mono (by simpa using hst.target_mem))

end ChatHygiene
