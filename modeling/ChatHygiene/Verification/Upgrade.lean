import ChatHygiene.Footprint.Contracts
import ChatHygiene.Footprint.Service
import ChatHygiene.Verification.Codec
/-!
# The key upgrade is all or nothing

Either every open challenge of another version is a legacy one whose expression
can be signed, and then all of them are signed again; or one is not, and then
none is.
-/

namespace ChatHygiene

open Txn (Yields Fails commit)

/-- The challenge is open, and its HMAC is of another version. -/
def ChallengeRow.outdated (c : ChallengeRow) : Bool :=
  c.closedAt.isNone && c.hmacKeyVersion ≠ currentKeyVersion

/-- The challenge under the current key. -/
def ChallengeRow.resigned (signer : ChallengeSigner) (c : ChallengeRow) : ChallengeRow :=
  match signer.answerHmacForExpression c.expression with
  | some answerHmac => { c with answerHmac := answerHmac, hmacKeyVersion := currentKeyVersion }
  | none => c

/-- The signer can sign the challenge again. -/
def ChallengeRecord.Upgradable (signer : ChallengeSigner) (c : ChallengeRecord) : Prop :=
  c.hmacKeyVersion = legacyChallengeHmacKeyVersion ∧
    (signer.answerHmacForExpression c.expression).isSome = true

section

variable {signer : ChallengeSigner} {db : Database}

/-! ## One challenge -/

theorem resigned_id (c : ChallengeRow) : (c.resigned signer).id = c.id := by
  unfold ChallengeRow.resigned
  split <;> rfl

/-- **A challenge that is stored as it was read is signed again, and no other one is.** -/
theorem upgradeChallengeHmac_yields {c : ChallengeRow} (hc : c ∈ db.challenge.rows)
    (hopen : c.closedAt = none) (h : c.toChallengeRecord.Upgradable signer) :
    Yields (upgradeChallengeHmac signer c.toChallengeRecord) db fun _ db' =>
      db'.challenge.rows = db.challenge.rows.map fun d =>
        if d.id = c.id then d.resigned signer else d := by
  obtain ⟨hversion, hsigned⟩ := h
  obtain ⟨answerHmac, hsigned⟩ := Option.isSome_iff_exists.1 hsigned
  have hkey {d : ChallengeRow} (hd : d ∈ db.challenge.rows) (hid : d.id = c.id) : d = c :=
    Table.eq_of_key_eq hd hc hid
  have haffected : db.challenge.affected (fun d => d.id = c.id && d.closedAt.isNone &&
      d.hmacKeyVersion = c.hmacKeyVersion) = 1 := by
    rw [Table.affected_key (k := c.id) _ (by
      intro d hd
      simp only [Bool.and_eq_true, decide_eq_true_eq] at hd
      exact hd.1.1), show db.challenge.lookup c.id = some c from Table.lookup_of_mem hc]
    simp [hopen]
  unfold upgradeChallengeHmac replaceChallengeHmac
  rw [if_neg (not_not.2 hversion), hsigned]
  refine Yields.bind (Uow.statement_yields rfl) ?_
  rintro n db' ⟨rfl, hdb⟩
  rw [haffected, updateOne_of_eq rfl]
  refine .pure ?_
  rw [hdb]
  refine List.map_congr_left fun d hd => ?_
  by_cases hid : d.id = c.id
  · obtain rfl := hkey hd hid
    rw [if_pos (by simp [hopen]), if_pos rfl, ChallengeRow.resigned, hsigned]
  · rw [if_neg (by simp [hid]), if_neg hid]

/-- A challenge that cannot be signed again ends the upgrade. -/
theorem upgradeChallengeHmac_fails {c : ChallengeRecord} (h : ¬c.Upgradable signer) :
    Fails (upgradeChallengeHmac signer c) db := by
  unfold upgradeChallengeHmac
  by_cases hversion : c.hmacKeyVersion = legacyChallengeHmacKeyVersion
  · rw [if_neg (not_not.2 hversion)]
    cases hsigned : signer.answerHmacForExpression c.expression with
    | none => exact Txn.fails_throw _ _
    | some answerHmac => exact absurd ⟨hversion, by rw [hsigned]; rfl⟩ h
  · rw [if_pos hversion]
    exact Txn.fails_bind_left (Txn.fails_throw _ _) _

/-! ## The loop -/

theorem upgradeChallenges_yields {rows : List ChallengeRow} (hnodup : (rows.map (·.id)).Nodup)
    (hrows : ∀ c ∈ rows, c ∈ db.challenge.rows ∧ c.closedAt = none ∧
      c.toChallengeRecord.Upgradable signer) :
    Yields (Txn.forEach (upgradeChallengeHmac signer) (rows.map (·.toChallengeRecord))) db
      fun _ db' => db'.challenge.rows = db.challenge.rows.map fun d =>
        if d.id ∈ rows.map (·.id) then d.resigned signer else d := by
  induction rows generalizing db with
  | nil =>
    refine Yields.pure ?_
    simp
  | cons c rows ih =>
    obtain ⟨hfresh, hnodup⟩ := List.nodup_cons.1 hnodup
    obtain ⟨hc, hopen, hupgradable⟩ := hrows c (by simp)
    refine Yields.bind (upgradeChallengeHmac_yields hc hopen hupgradable) ?_
    intro _ db₁ hdb₁
    -- the other challenges are still stored as they were read
    have hrows₁ : ∀ d ∈ rows, d ∈ db₁.challenge.rows ∧ d.closedAt = none ∧
        d.toChallengeRecord.Upgradable signer := by
      intro d hd
      obtain ⟨hmem, hrest⟩ := hrows d (by simp [hd])
      have hne : d.id ≠ c.id := fun hid => hfresh (List.mem_map.2 ⟨d, hd, hid⟩)
      rw [hdb₁]
      exact ⟨List.mem_map.2 ⟨d, hmem, if_neg hne⟩, hrest⟩
    refine (ih hnodup hrows₁).mono fun _ db₂ hdb₂ => ?_
    rw [hdb₂, hdb₁, List.map_map]
    refine List.map_congr_left fun d _ => ?_
    simp only [Function.comp_apply, List.map_cons, List.mem_cons]
    by_cases hid : d.id = c.id
    · rw [if_pos hid, resigned_id, hid, if_neg hfresh, if_pos (.inl rfl)]
    · simp only [hid, if_false, false_or]

theorem upgradeChallenges_fails {challenges : List ChallengeRecord}
    (h : ∃ c ∈ challenges, ¬c.Upgradable signer) :
    Fails (Txn.forEach (upgradeChallengeHmac signer) challenges) db := by
  induction challenges generalizing db with
  | nil =>
    obtain ⟨c, hc, -⟩ := h
    cases hc
  | cons c challenges ih =>
    by_cases hc : c.Upgradable signer
    · obtain ⟨d, hd, hbad⟩ := h
      rcases List.mem_cons.1 hd with rfl | hd
      · exact absurd hc hbad
      · exact Txn.fails_bind_right fun _ _ _ => ih ⟨d, hd, hbad⟩
    · exact Txn.fails_bind_left (upgradeChallengeHmac_fails hc) _

/-! ## The upgrade -/

/-- The outdated challenges, as the loop goes through them. -/
def Database.outdatedChallenges (db : Database) : List ChallengeRow :=
  (db.challenge.rows.filter ChallengeRow.outdated).insertionSort fun a b => a.id ≤ b.id

theorem mem_outdatedChallenges {c : ChallengeRow} :
    c ∈ db.outdatedChallenges ↔ c ∈ db.challenge.rows ∧ c.outdated = true := by
  rw [Database.outdatedChallenges, (List.perm_insertionSort _ _).mem_iff, List.mem_filter]

theorem nodup_outdatedChallenges : (db.outdatedChallenges.map (·.id)).Nodup := by
  have hperm := (List.perm_insertionSort (fun a b : ChallengeRow => a.id ≤ b.id)
    (db.challenge.rows.filter ChallengeRow.outdated)).map (·.id)
  exact hperm.nodup_iff.2 (db.challenge.nodup.sublist (List.filter_sublist.map _))

theorem activeChallengesNotOnVersion_eq :
    activeChallengesNotOnVersion currentKeyVersion db =
      .ok (db.outdatedChallenges.map (·.toChallengeRecord), db) := by
  have hsorted := List.map_insertionSort (r := fun a b : ChallengeRow => a.id ≤ b.id)
    (s := fun a b : ChallengeRecord => a.id ≤ b.id) ChallengeRow.toChallengeRecord
    (db.challenge.rows.filter ChallengeRow.outdated) fun a _ b _ => Iff.rfl
  rw [Database.outdatedChallenges, hsorted]
  rfl

/-- **If every outdated challenge can be signed again, all of them are.** -/
theorem upgradeActiveChallengeHmacs_yields (hversion : signer.keyVersion = currentKeyVersion)
    (h : ∀ c ∈ db.outdatedChallenges, c.toChallengeRecord.Upgradable signer) :
    Yields (upgradeActiveChallengeHmacs signer) db fun n db' =>
      (n = db.outdatedChallenges.length ∧ db'.challenge.rows = db.challenge.rows.map fun c =>
        if c.outdated then c.resigned signer else c) ∧
      Frame [.challenge] db.toTables db'.toTables := by
  refine yields_frame ?_ (upgradeActiveChallengeHmacs_writes (by simp) signer)
  unfold upgradeActiveChallengeHmacs
  rw [if_neg (not_not.2 hversion)]
  refine Yields.bind_of_ok activeChallengesNotOnVersion_eq ?_
  refine Yields.bind (upgradeChallenges_yields nodup_outdatedChallenges fun c hc => ?_) ?_
  · obtain ⟨hmem, houtdated⟩ := mem_outdatedChallenges.1 hc
    simp only [ChallengeRow.outdated, Bool.and_eq_true, Option.isNone_iff_eq_none] at houtdated
    exact ⟨hmem, houtdated.1, h c hc⟩
  · intro _ db' hdb'
    refine .pure ⟨by rw [List.length_map], ?_⟩
    rw [hdb']
    refine List.map_congr_left fun c hc => ?_
    have hiff : c.id ∈ db.outdatedChallenges.map (·.id) ↔ c.outdated = true := by
      rw [List.mem_map]
      constructor
      · rintro ⟨d, hd, hid⟩
        obtain ⟨hmem, houtdated⟩ := mem_outdatedChallenges.1 hd
        obtain rfl : d = c := Table.eq_of_key_eq hmem hc hid
        exact houtdated
      · exact fun houtdated => ⟨c, mem_outdatedChallenges.2 ⟨hc, houtdated⟩, rfl⟩
    simp only [hiff]

/-- If one cannot, the upgrade fails. -/
theorem upgradeActiveChallengeHmacs_fails
    (h : ∃ c ∈ db.outdatedChallenges, ¬c.toChallengeRecord.Upgradable signer) :
    Fails (upgradeActiveChallengeHmacs signer) db := by
  obtain ⟨c, hc, hbad⟩ := h
  unfold upgradeActiveChallengeHmacs
  split
  · exact Txn.fails_bind_left (Txn.fails_throw _ _) _
  · refine Txn.fails_bind_right fun challenges db' hread => ?_
    rw [activeChallengesNotOnVersion_eq] at hread
    obtain ⟨rfl, rfl⟩ := Prod.mk.inj (Except.ok.inj hread)
    exact Txn.fails_bind_left (upgradeChallenges_fails ⟨_, List.mem_map_of_mem hc, hbad⟩) _

end

/-! ## With the arithmetic verifier -/

/-- The key upgrade with a verifier. -/
def ArithmeticVerifier.upgrade {R : Type} (p : Primitives) (v : ArithmeticVerifier R) : Uow Nat :=
  upgradeActiveChallengeHmacs (v.toChallengeSigner p)

section

variable {R : Type} {p : Primitives} {v : ArithmeticVerifier R} {db db' : Database}

/-- The challenge under the key of the verifier: the same but for its HMAC, against which the
verifier accepts what any verifier accepted against the old one, if that was the HMAC of the
expression. -/
structure ChallengeRow.UpgradesTo (p : Primitives) (v : ArithmeticVerifier R)
    (c c' : ChallengeRow) : Prop where
  same : c' = { c with answerHmac := c'.answerHmac, hmacKeyVersion := currentKeyVersion }
  accepts : ∀ {R' : Type} (old : ArithmeticVerifier R'),
    old.answerHmacForExpression p c.expression = some c.answerHmac →
    ∀ raw, v.evaluate p raw c'.answerHmac = .correct ↔ old.evaluate p raw c.answerHmac = .correct

/-- What a successful upgrade does: open legacy challenges are upgraded, and everything else is
left as it was. -/
structure Upgraded (p : Primitives) (v : ArithmeticVerifier R) (db db' : Database) : Prop where
  legacy : ∀ c ∈ db.challenge.rows, c.closedAt = none →
    c.hmacKeyVersion = legacyChallengeHmacKeyVersion →
    ∃ c' ∈ db'.challenge.rows, c.UpgradesTo p v c'
  kept : ∀ c ∈ db.challenge.rows, c.closedAt ≠ none ∨ c.hmacKeyVersion = currentKeyVersion →
    c ∈ db'.challenge.rows
  ids : db'.challenge.rows.map (·.id) = db.challenge.rows.map (·.id)
  frame : Frame [.challenge] db.toTables db'.toTables

theorem upgradable_iff {c : ChallengeRecord} :
    c.Upgradable (v.toChallengeSigner p) ↔
      c.hmacKeyVersion = legacyChallengeHmacKeyVersion ∧ ∃ answer, Asks c.expression answer := by
  refine and_congr_right fun _ => ?_
  rw [Option.isSome_iff_exists]
  constructor
  · rintro ⟨hmac, hsigned⟩
    obtain ⟨answer, hasks, -⟩ := ArithmeticVerifier.answerHmacForExpression_eq_some_iff.1 hsigned
    exact ⟨answer, hasks⟩
  · rintro ⟨answer, hasks⟩
    exact ⟨_, ArithmeticVerifier.answerHmacForExpression_eq_some_iff.2 ⟨answer, hasks, rfl⟩⟩

/-- **A challenge that is signed again is answered as before.** -/
theorem resigned_upgradesTo (hp : p.Lawful) {c : ChallengeRow}
    (h : c.toChallengeRecord.Upgradable (v.toChallengeSigner p)) :
    c.UpgradesTo p v (c.resigned (v.toChallengeSigner p)) := by
  obtain ⟨hmac, hsigned⟩ := Option.isSome_iff_exists.1 h.2
  have hresigned : c.resigned (v.toChallengeSigner p) =
      { c with answerHmac := hmac, hmacKeyVersion := currentKeyVersion } := by
    rw [ChallengeRow.resigned, hsigned]
  obtain ⟨answer, hasks, rfl⟩ := ArithmeticVerifier.answerHmacForExpression_eq_some_iff.1 hsigned
  rw [hresigned]
  refine ⟨rfl, fun old hold raw => ?_⟩
  obtain ⟨answer', hasks', hstored⟩ :=
    ArithmeticVerifier.answerHmacForExpression_eq_some_iff.1 hold
  obtain rfl := hasks.unique hasks'
  rw [hstored]
  exact (evaluate_answerHmac hp hasks.nonneg).trans (evaluate_answerHmac hp hasks.nonneg).symm

theorem outdated_iff {c : ChallengeRow} : c.outdated = true ↔
    c.closedAt = none ∧ c.hmacKeyVersion ≠ currentKeyVersion := by
  simp [ChallengeRow.outdated]

theorem resigned_not_outdated {signer : ChallengeSigner} {c : ChallengeRow}
    (h : c.toChallengeRecord.Upgradable signer) : (c.resigned signer).outdated = false := by
  obtain ⟨hmac, hsigned⟩ := Option.isSome_iff_exists.1 h.2
  rw [ChallengeRow.resigned, hsigned]
  simp [ChallengeRow.outdated]

/-- Without an outdated challenge there is nothing to do. -/
theorem upgrade_of_current (hversion : v.keyVersion = currentKeyVersion)
    (h : ∀ c ∈ db.challenge.rows, c.outdated = false) : v.upgrade p db = .ok (0, db) := by
  have hnone : db.outdatedChallenges = [] := by
    refine List.eq_nil_iff_forall_not_mem.2 fun c hc => ?_
    obtain ⟨hmem, houtdated⟩ := mem_outdatedChallenges.1 hc
    rw [h c hmem] at houtdated
    cases houtdated
  unfold ArithmeticVerifier.upgrade upgradeActiveChallengeHmacs
  rw [if_neg (not_not.2 (show (v.toChallengeSigner p).keyVersion = _ from hversion))]
  refine (Txn.bind_of_ok activeChallengesNotOnVersion_eq).trans ?_
  rw [hnone]
  rfl

/-- **The challenge key upgrade.** With a verifier of the current version, either every outdated
challenge is a legacy one that asks for a number, and then the upgrade succeeds, upgrades the open
legacy challenges and nothing else, and has nothing to do when it is run again; or one of them is
not, and then it fails and leaves the store unchanged. -/
theorem upgrade_all_or_nothing (hp : p.Lawful) (hversion : v.keyVersion = currentKeyVersion)
    (db : Database) :
    ((∀ c ∈ db.challenge.rows, c.closedAt = none → c.hmacKeyVersion ≠ currentKeyVersion →
        c.hmacKeyVersion = legacyChallengeHmacKeyVersion ∧ ∃ answer, Asks c.expression answer) ∧
      ∃ upgraded db', v.upgrade p db = .ok (upgraded, db') ∧ Upgraded p v db db' ∧
        v.upgrade p db' = .ok (0, db')) ∨
    ((∃ c ∈ db.challenge.rows, c.closedAt = none ∧ c.hmacKeyVersion ≠ currentKeyVersion ∧
        (c.hmacKeyVersion ≠ legacyChallengeHmacKeyVersion ∨ ¬∃ answer, Asks c.expression answer)) ∧
      ∃ error, commit (v.upgrade p) db = (db, .error error)) := by
  by_cases hall : ∀ c ∈ db.outdatedChallenges,
      c.toChallengeRecord.Upgradable (v.toChallengeSigner p)
  · left
    have hupgradable {c : ChallengeRow} (hc : c ∈ db.challenge.rows) (houtdated : c.outdated = true) :
        c.toChallengeRecord.Upgradable (v.toChallengeSigner p) :=
      hall c (mem_outdatedChallenges.2 ⟨hc, houtdated⟩)
    refine ⟨fun c hc hopen hother => upgradable_iff.1 (hupgradable hc (outdated_iff.2 ⟨hopen, hother⟩)),
      ?_⟩
    -- every outdated challenge is signed again, and a signed one is no longer outdated
    obtain ⟨upgraded, db', hx, ⟨-, hrows⟩, hframe⟩ := upgradeActiveChallengeHmacs_yields hversion hall
    have hmem {c : ChallengeRow} (hc : c ∈ db.challenge.rows) :
        (if c.outdated then c.resigned (v.toChallengeSigner p) else c) ∈ db'.challenge.rows := by
      rw [hrows]
      exact List.mem_map_of_mem hc
    refine ⟨upgraded, db', hx, ⟨fun c hc hopen hlegacy => ?_, fun c hc hkept => ?_, ?_, hframe⟩, ?_⟩
    · have houtdated : c.outdated = true := outdated_iff.2 ⟨hopen, by rw [hlegacy]; decide⟩
      have hresigned := hmem hc
      rw [if_pos houtdated] at hresigned
      exact ⟨_, hresigned, resigned_upgradesTo hp (hupgradable hc houtdated)⟩
    · have hcurrent : ¬c.outdated = true := by
        rw [outdated_iff]
        tauto
      have hsame := hmem hc
      rwa [if_neg hcurrent] at hsame
    · rw [hrows, List.map_map]
      refine List.map_congr_left fun c _ => ?_
      simp only [Function.comp_apply]
      split
      · exact resigned_id c
      · rfl
    · refine upgrade_of_current hversion fun c' hc' => ?_
      rw [hrows] at hc'
      obtain ⟨c, hc, rfl⟩ := List.mem_map.1 hc'
      split
      · next houtdated => exact resigned_not_outdated (hupgradable hc houtdated)
      · next houtdated => simpa using houtdated
  · right
    simp only [not_forall] at hall
    obtain ⟨c, hc, hbad⟩ := hall
    obtain ⟨hmem, houtdated⟩ := mem_outdatedChallenges.1 hc
    obtain ⟨hopen, hother⟩ := outdated_iff.1 houtdated
    refine ⟨⟨c, hmem, hopen, hother, ?_⟩, ?_⟩
    · rw [upgradable_iff] at hbad
      exact not_and_or.1 hbad
    -- one challenge that cannot be upgraded rolls all of them back
    · have hfails : Fails (v.upgrade p) db := upgradeActiveChallengeHmacs_fails ⟨c, hc, hbad⟩
      cases hx : v.upgrade p db with
      | ok r => exact absurd ⟨r, hx⟩ hfails
      | error error => exact ⟨error, Txn.commit_of_error hx⟩

end

section

open Sample

/-- A correspondent is asked a question under the legacy key. -/
def askedUnderLegacyKey : List Op :=
  connected true ++ [.worker (.prepare 3 (raw .inboundMessage "c" (some 50) (some 1) (some "3") 3)
    { preparer .allow .correct 3 with
      verifier := arithmeticVerifier.toChallengeVerifier primitives }),
    .worker .record, .worker (.apply 3)]

/-- The verifier of the current key. -/
def currentVerifier : ArithmeticVerifier Unit :=
  .newWithKeyVersion () "current".toByteArray currentKeyVersion

set_option maxRecDepth 100000 in
theorem upgrade_all_or_nothing_asked : ∃ db : Database,
    (db.challenge.rows.any fun c => c.closedAt.isNone &&
      c.hmacKeyVersion = legacyChallengeHmacKeyVersion) = true ∧
    (((∀ c ∈ db.challenge.rows, c.closedAt = none → c.hmacKeyVersion ≠ currentKeyVersion →
        c.hmacKeyVersion = legacyChallengeHmacKeyVersion ∧ ∃ answer, Asks c.expression answer) ∧
      ∃ upgraded db', currentVerifier.upgrade primitives db = .ok (upgraded, db') ∧
        Upgraded primitives currentVerifier db db' ∧
        currentVerifier.upgrade primitives db' = .ok (0, db')) ∨
    ((∃ c ∈ db.challenge.rows, c.closedAt = none ∧ c.hmacKeyVersion ≠ currentKeyVersion ∧
        (c.hmacKeyVersion ≠ legacyChallengeHmacKeyVersion ∨ ¬∃ answer, Asks c.expression answer)) ∧
      ∃ error, commit (currentVerifier.upgrade primitives) db = (db, .error error))) := by
  have hreached : ∃ w, service.Reachable w ∧ (w.db.challenge.rows.any fun c =>
      c.closedAt.isNone && c.hmacKeyVersion = legacyChallengeHmacKeyVersion) = true :=
    Machine.reachable_of_run askedUnderLegacyKey _ ⟨0, rfl⟩ (by decide +kernel)
  obtain ⟨w, -, hlegacy⟩ := hreached
  exact ⟨w.db, hlegacy, upgrade_all_or_nothing primitives_lawful rfl w.db⟩

end

end ChatHygiene
