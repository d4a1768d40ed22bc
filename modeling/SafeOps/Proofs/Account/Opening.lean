import SafeOps.Account.Opening
import SafeOps.Proofs.Program.Transcript

/-!
# `SafeOps.Proofs.Account.Opening`: all that setting an account up can do

An account is set up in a fixed order of questions and checks, like an operation is prepared. An
`Opening` holds what came up on the way of a run that succeeds, and `gives_init_iff` says that
these are exactly the runs that succeed.

Where the account comes from is the last step: `gives_resolveChoice_existing_iff` for one that is
deployed, and `gives_resolveChoice_new_iff` for one that is not, which comes with the way it will
be deployed.
-/

set_option autoImplicit false

namespace SafeOps.Account

variable {c : AccountConfig} {t : List Exchange} {a : Account}

theorem gives_ofConfig_bind_iff {α β : Type} {x : Except ConfigError α}
    {f : α → Attempt AccountError β} {b : β} :
    (ofConfig x >>= f).Gives t b ↔ ∃ v, x = .ok v ∧ (f v).Gives t b := by
  rw [ofConfig, Attempt.gives_ofExcept_bind_iff]
  simp only [mapError_eq_ok_iff]

/-! ### The account itself -/

theorem gives_prepareNew_iff {node : Node} {signer : Signer} {contracts : Contracts}
    {account : NewAccount} {payment : Option Payment} {d : Deployment} :
    (prepareNew node signer contracts account payment).Gives t d ↔
      checkVersion account.version = .ok ()
        ∧ checkOwners (ownersWith signer contracts.sharedSigner account.owners) account.threshold
          = .ok ()
        ∧ ∃ code, (readNode node (.creationCode contracts.proxyFactory)).Gives t code
          ∧ d = Deployment.prepare contracts
            { account with owners := ownersWith signer contracts.sharedSigner account.owners }
            (extrasFor signer payment) code := by
  rw [prepareNew, Attempt.gives_ofExcept_bind_iff]
  constructor
  · rintro ⟨u, hversion, h₁⟩
    obtain ⟨u, howners, h₂⟩ := Attempt.gives_ofExcept_bind_iff.mp h₁
    obtain ⟨t₁, t₂, code, rfl, hcode, h₃⟩ := Attempt.gives_bind_iff.mp h₂
    obtain ⟨rfl, rfl⟩ := Attempt.gives_pure_iff.mp h₃
    rw [List.append_nil]
    exact ⟨hversion, howners, code, hcode, rfl⟩
  · rintro ⟨hversion, howners, code, hcode, rfl⟩
    refine ⟨(), hversion, Attempt.gives_ofExcept_bind_iff.mpr ⟨(), howners, ?_⟩⟩
    exact Attempt.gives_bind_iff.mpr
      ⟨t, [], code, (List.append_nil t).symm, hcode, Attempt.gives_pure_iff.mpr ⟨rfl, rfl⟩⟩

theorem gives_resolveChoice_existing_iff {contracts : Contracts} {account address : Address}
    {deployment : Option Deployment} (h : c.choice = .existing account) :
    (resolveChoice c contracts).Gives t (address, deployment) ↔
      (checkExisting c.node account contracts).Gives t () ∧ account = address
        ∧ deployment = none := by
  rw [resolveChoice, h]
  show (checkExisting c.node account contracts >>= fun _ => pure (account, none)).Gives t _ ↔ _
  rw [Attempt.gives_bind_iff]
  constructor
  · rintro ⟨t₁, t₂, u, rfl, hcheck, hpure⟩
    obtain ⟨rfl, hpair⟩ := Attempt.gives_pure_iff.mp hpure
    cases hpair
    rw [List.append_nil]
    exact ⟨hcheck, rfl, rfl⟩
  · rintro ⟨hcheck, rfl, rfl⟩
    exact ⟨t, [], (), (List.append_nil t).symm, hcheck, Attempt.gives_pure_iff.mpr ⟨rfl, rfl⟩⟩

theorem gives_resolveChoice_new_iff {contracts : Contracts} {account : NewAccount}
    {address : Address} {deployment : Option Deployment} (h : c.choice = .new account) :
    (resolveChoice c contracts).Gives t (address, deployment) ↔
      ∃ d, (prepareNew c.node c.signer contracts account c.payment).Gives t d
        ∧ address = d.account ∧ deployment = some d := by
  rw [resolveChoice, h]
  show (prepareNew c.node c.signer contracts account c.payment >>= fun d =>
    Attempt.tell _ _ >>= fun _ => pure (d.account, some d)).Gives t _ ↔ _
  simp only [Attempt.gives_bind_iff (x := prepareNew _ _ _ _ _), Attempt.gives_tell_bind_iff]
  constructor
  · rintro ⟨t₁, t₂, d, rfl, hd, hpure⟩
    obtain ⟨rfl, hpair⟩ := Attempt.gives_pure_iff.mp hpure
    cases hpair
    rw [List.append_nil]
    exact ⟨d, hd, rfl, rfl⟩
  · rintro ⟨d, hd, rfl, rfl⟩
    exact ⟨t, [], d, (List.append_nil t).symm, hd, Attempt.gives_pure_iff.mpr ⟨rfl, rfl⟩⟩

/-! ### What came up in a run -/

/-- What came up in a run that set an account up, in the order in which it came up. -/
structure Opening (c : AccountConfig) (t : List Exchange) (a : Account) where
  bundler : Rpc.connect c.bundlerUrl = .ok a.bundler
  /-- The exchanges of the run, cut where one question leads on to the next. -/
  askedChainId : List Exchange
  askedEntryPoint : List Exchange
  askedChoice : List Exchange
  asked : askedChainId ++ (askedEntryPoint ++ askedChoice) = t
  gives_chainId : (readNode c.node .chainId).Gives askedChainId a.chainId
  modules : Version
  config_version : Config.version (c.modulesVersion.getD defaultModules) = .ok modules
  required : EntryPoint
  ofModules : EntryPoint.ofModules modules = .ok required
  found : Contracts
  resolve : (c.registry.getD (.canonical [a.chainId])).resolve a.chainId modules = .ok found
  gives_entryPoint : (selectEntryPoint a.bundler c.overrides.entryPoint required modules).Gives
    askedEntryPoint a.entryPoint
  contracts : a.contracts = { found.override c.overrides with entryPoint := a.entryPoint }
  gives_choice : (resolveChoice c a.contracts).Gives askedChoice (a.address, a.deployment)
  node : a.node = c.node
  signer : a.signer = c.signer
  estimator : a.estimator = c.estimator.getD (.ofNode c.node {})
  payment : a.payment = c.payment
  mark : a.mark = c.analytics.map Analytics.identifier
  overhead : a.overhead = c.overhead

/-- The runs that set an account up are those in which all answers and checks come up. -/
theorem gives_init_iff : (init c).Gives t a ↔ Nonempty (Opening c t a) := by
  rw [init, Attempt.gives_within_iff]
  constructor
  · intro h
    obtain ⟨bundler, hbundler, h₁⟩ := Attempt.gives_ofExcept_bind_iff.mp h
    obtain ⟨t₁, t', chainId, rfl, hchainId, h₂⟩ := Attempt.gives_bind_iff.mp h₁
    obtain ⟨modules, hmodules, h₃⟩ := gives_ofConfig_bind_iff.mp h₂
    obtain ⟨required, hrequired, h₄⟩ := gives_ofConfig_bind_iff.mp h₃
    obtain ⟨found, hfound, h₅⟩ := gives_ofConfig_bind_iff.mp h₄
    obtain ⟨t₂, t', entryPoint, rfl, hentryPoint, h₆⟩ := Attempt.gives_bind_iff.mp h₅
    obtain ⟨t₃, t₄, ⟨address, deployment⟩, rfl, hchoice, h₇⟩ :=
      Attempt.gives_bind_iff.mp (Attempt.gives_tell_bind_iff.mp h₆)
    obtain ⟨rfl, rfl⟩ := Attempt.gives_pure_iff.mp h₇
    exact ⟨{
      bundler := mapError_eq_ok_iff.mp hbundler
      askedChainId := t₁
      askedEntryPoint := t₂
      askedChoice := t₃
      asked := by rw [List.append_nil]
      gives_chainId := hchainId
      modules := modules
      config_version := hmodules
      required := required
      ofModules := hrequired
      found := found
      resolve := hfound
      gives_entryPoint := hentryPoint
      contracts := rfl
      gives_choice := hchoice
      node := rfl
      signer := rfl
      estimator := rfl
      payment := rfl
      mark := rfl
      overhead := rfl }⟩
  · rintro ⟨p⟩
    refine Attempt.gives_ofExcept_bind_iff.mpr ⟨a.bundler, mapError_eq_ok_iff.mpr p.bundler, ?_⟩
    refine Attempt.gives_bind_iff.mpr
      ⟨p.askedChainId, _, a.chainId, p.asked.symm, p.gives_chainId, ?_⟩
    refine gives_ofConfig_bind_iff.mpr ⟨p.modules, p.config_version, ?_⟩
    refine gives_ofConfig_bind_iff.mpr ⟨p.required, p.ofModules, ?_⟩
    refine gives_ofConfig_bind_iff.mpr ⟨p.found, p.resolve, ?_⟩
    refine Attempt.gives_bind_iff.mpr
      ⟨p.askedEntryPoint, p.askedChoice, a.entryPoint, rfl, p.gives_entryPoint, ?_⟩
    refine Attempt.gives_tell_bind_iff.mpr (Attempt.gives_bind_iff.mpr
      ⟨p.askedChoice, [], (a.address, a.deployment), (List.append_nil _).symm, ?_, ?_⟩)
    · rw [← p.contracts]
      exact p.gives_choice
    · rw [← p.contracts, ← p.node, ← p.signer, ← p.payment, ← p.mark, ← p.overhead]
      refine Attempt.gives_pure_iff.mpr ⟨rfl, ?_⟩
      rw [p.node, ← p.estimator, ← p.node]

end SafeOps.Account
