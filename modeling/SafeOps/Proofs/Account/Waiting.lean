import SafeOps.Account.Submission
import SafeOps.Proofs.Account.Composition
import SafeOps.Proofs.Json.Codec
import SafeOps.Proofs.Rpc.Answer
import SafeOps.Rehearsal.Stage

/-!
# `SafeOps.Proofs.Account.Waiting`: asking until there is a receipt

As long as a bundler has no receipt it answers with the result `null`. For the client that is a
result and not a missing one, and for the reader of receipts it is no receipt and not one that
cannot be read: such an answer is `Pending` (`news_eq_pending_iff`). Any other reply `Brings` a
receipt, which is the result in its body, or `Fails`, as the rules for replies say.

Waiting has a number of questions after which it is given up. Nothing but the end depends on that
number: `attempt_pollReceipt_succ` says everything one question does, and by induction over the
pending answers a question more is left for each of them (`attempt_pollReceipt_add`). So the main
statement, `settled_awaitReceipt`, is about every number of pending answers and every number of
questions, and there is no bound in what it says about the outcome.
-/

set_option autoImplicit false

namespace SafeOps

/-! ### Replies -/

namespace Rpc.Bundler

/-- The request for the receipt of an operation. -/
def receiptRequest (hash : Hash) : Request :=
  ⟨"eth_getUserOperationReceipt", .arr [Json.ofHash hash]⟩

/-- What a reply to the request is understood as. -/
def news (reply : Reply) : Except RpcError (Option Receipt) :=
  interpret "eth_getUserOperationReceipt" (Json.toOptionOf Receipt.ofJson?) reply

/-- The bundler has no receipt yet. -/
def Pending (reply : Reply) : Prop :=
  Holds reply .null

/-- The bundler has this receipt. -/
def Brings (reply : Reply) (receipt : Receipt) : Prop :=
  ∃ result, Holds reply result ∧ Receipt.ofJson? result = some receipt

/-- The request fails with this error. -/
def Fails (reply : Reply) (e : RpcError) : Prop :=
  Classified "eth_getUserOperationReceipt" (Json.toOptionOf Receipt.ofJson?) reply (.error e)

variable {reply : Reply} {receipt : Receipt}

/-- A reply is understood if it holds a result that can be read. -/
theorem news_eq_ok_iff {known : Option Receipt} :
    news reply = .ok known
      ↔ ∃ result, Holds reply result
        ∧ Json.toOptionOf Receipt.ofJson? result = some known :=
  classified_iff.symm.trans classified_ok_iff

/-- No receipt is read from `null`, and no receipt there is nothing else. -/
theorem news_eq_pending_iff : news reply = .ok none ↔ Pending reply := by
  simp only [news_eq_ok_iff, Json.toOptionOf_eq_none_iff]
  constructor
  · rintro ⟨result, hholds, rfl⟩
    exact hholds
  · intro hpending
    exact ⟨.null, hpending, rfl⟩

theorem news_eq_receipt_iff : news reply = .ok (some receipt) ↔ Brings reply receipt := by
  have hnull : Receipt.ofJson? .null = none := rfl
  simp only [news_eq_ok_iff, Json.toOptionOf_eq_some_iff hnull]
  rfl

theorem news_eq_error_iff {e : RpcError} : news reply = .error e ↔ Fails reply e :=
  classified_iff.symm

/-- Every reply is one of the three. -/
theorem pending_or_brings_or_fails (reply : Reply) :
    Pending reply ∨ (∃ receipt, Brings reply receipt) ∨ ∃ e, Fails reply e := by
  cases hnews : news reply with
  | error e => exact Or.inr (Or.inr ⟨e, news_eq_error_iff.mp hnews⟩)
  | ok known =>
    cases known with
    | none => exact Or.inl (news_eq_pending_iff.mp hnews)
    | some receipt => exact Or.inr (Or.inl ⟨receipt, news_eq_receipt_iff.mp hnews⟩)

end Rpc.Bundler

/-! ### Replies in turn -/

namespace Rpc

/-- The requests that were sent, each with the service it was sent to. -/
abbrev Sent : Type := List (Endpoint × Request)

namespace Sent

/-- Answers the requests with replies that were given beforehand, one after the other, and all
else somehow. -/
def answer (replies : Nat → Reply) (others : (question : Query) → question.Answer) (sent : Sent) :
    (question : Query) → question.Answer × Sent
  | .post service request => (replies sent.length, sent ++ [(service, request)])
  | question => (others question, sent)

/-- Plays a program that may fail. -/
def attempt {ε α : Type} (replies : Nat → Reply) (others : (question : Query) → question.Answer)
    (p : Attempt ε α) (sent : Sent) : Except ε α × Sent :=
  p.run.run (answer replies others) sent

variable {ε ε' α β : Type} {replies : Nat → Reply}
  {others : (question : Query) → question.Answer} (sent : Sent)

theorem attempt_bind (x : Attempt ε α) (f : α → Attempt ε β) :
    attempt replies others (x >>= f) sent
      = match attempt replies others x sent with
        | (.ok a, sent') => attempt replies others (f a) sent'
        | (.error e, sent') => (.error e, sent') := by
  show Program.run _ (Program.bind x.run (ExceptT.bindCont f)) sent = _
  rw [Program.run_bind, attempt]
  rcases x.run.run (answer replies others) sent with ⟨result, sent'⟩
  cases result with
  | ok a => rfl
  | error e => rfl

theorem attempt_mapError (f : ε → ε') (p : Attempt ε α) :
    attempt replies others (Attempt.mapError f p) sent
      = ((attempt replies others p sent).1.mapError f, (attempt replies others p sent).2) := by
  show Program.run _ (Program.bind p.run _) sent = _
  rw [Program.run_bind]
  rfl

/-- Whoever answers does not look at the messages, so their marks make no difference. -/
theorem attempt_within (module : String) (p : Attempt ε α) :
    attempt replies others (Attempt.within module p) sent = attempt replies others p sent := by
  have hrun : ∀ (q : Program (Except ε α)) (sent : Sent),
      (q.within module).run (answer replies others) sent
        = q.run (answer replies others) sent := by
    intro q
    induction q with
    | done value => exact fun _ => rfl
    | ask question next ih =>
      intro sent
      cases question with
      | tell level context text =>
        cases context with
        | none => exact ih () sent
        | some context => exact ih () sent
      | post service request => exact ih _ _
      | node question => exact ih _ _
      | typedSignature method data => exact ih _ _
      | assertion challenge => exact ih _ _
      | pause => exact ih () sent
  exact hrun p.run sent

/-- A request is sent once, and ends with what the next reply means. -/
theorem attempt_ask (service : Endpoint) (method : String) (params : Json)
    (read : Json → Option α) :
    attempt replies others (ask service method params read) sent
      = (interpret method read (replies sent.length),
        sent ++ [(service, ⟨method, params⟩)]) := by
  -- The message in front and the question are answered, whatever comes after them.
  have hnext : ∀ next : Reply → Attempt RpcError α,
      attempt replies others (do
        Attempt.tell .debug ("rpc.request method=" ++ method ++ " host=" ++ service.host)
        let reply ← Attempt.always (Program.query (.post service ⟨method, params⟩))
        next reply) sent
      = attempt replies others (next (replies sent.length))
          (sent ++ [(service, ⟨method, params⟩)]) :=
    fun next => rfl
  rw [ask, hnext]
  cases warning service.host method (replies sent.length) with
  | none => rfl
  | some text => rfl

end Sent

end Rpc

/-! ### Waiting -/

namespace Account

open Rpc.Bundler (receiptRequest news Pending Brings Fails)
open Rpc.Sent (attempt attempt_bind attempt_mapError attempt_within attempt_ask)

variable (a : Account) (hash : Hash) (replies : Nat → Rpc.Reply)
  (others : (question : Query) → question.Answer) (sent : Rpc.Sent)

/-- The question for the receipt, so many times. -/
def receiptRequests (times : Nat) : Rpc.Sent :=
  List.replicate times (a.bundler, receiptRequest hash)

/-- One question is asked, and the next one only if there is no receipt yet. -/
theorem attempt_pollReceipt_succ (polls : Nat) :
    attempt replies others (a.pollReceipt hash (polls + 1)) sent
      = match news (replies sent.length) with
        | .ok none =>
          attempt replies others (a.pollReceipt hash polls) (sent ++ a.receiptRequests hash 1)
        | .ok (some receipt) =>
          (.ok (some (.ofReceipt receipt)), sent ++ a.receiptRequests hash 1)
        | .error e => (.error (.rpc e), sent ++ a.receiptRequests hash 1) := by
  rw [pollReceipt, attempt_bind, attempt_mapError, Rpc.Bundler.receipt, attempt_ask, ← news]
  cases news (replies sent.length) with
  | error e => rfl
  | ok known =>
    cases known with
    | none => rfl
    | some receipt => rfl

/-- Each pending answer takes one question, and leads to the next. -/
theorem attempt_pollReceipt_add (polls k : Nat)
    (hpending : ∀ i < k, Pending (replies (sent.length + i))) :
    attempt replies others (a.pollReceipt hash (polls + k)) sent
      = attempt replies others (a.pollReceipt hash polls) (sent ++ a.receiptRequests hash k) := by
  induction k generalizing sent with
  | zero => simp [receiptRequests]
  | succ k ih =>
    have hfirst : news (replies sent.length) = .ok none :=
      Rpc.Bundler.news_eq_pending_iff.mpr (hpending 0 (by omega))
    have hrest : ∀ i < k, Pending (replies ((sent ++ a.receiptRequests hash 1).length + i)) := by
      intro i hi
      have hnext := hpending (i + 1) (by omega)
      rw [List.length_append, receiptRequests, List.length_replicate]
      rwa [show sent.length + 1 + i = sent.length + (i + 1) by omega]
    have hall : a.receiptRequests hash 1 ++ a.receiptRequests hash k
        = a.receiptRequests hash (k + 1) := rfl
    rw [← Nat.add_assoc, attempt_pollReceipt_succ, hfirst]
    show attempt replies others (a.pollReceipt hash (polls + k)) _ = _
    rw [ih _ hrest, List.append_assoc, hall]

/-- What comes of waiting while the requests are answered with these replies, and what was sent. -/
def waiting (polls : Nat) : Except AccountError (Option Outcome) × Rpc.Sent :=
  attempt replies others (a.awaitReceipt hash polls) []

/-- Pending answers take one question each and end nothing. -/
theorem waiting_add (polls k : Nat) (hpending : ∀ i < k, Pending (replies i)) :
    a.waiting hash replies others (polls + k)
      = attempt replies others (a.pollReceipt hash polls) (a.receiptRequests hash k) := by
  have hreplies : ∀ i < k, Pending (replies (([] : Rpc.Sent).length + i)) := by
    intro i hi
    rw [List.length_nil, Nat.zero_add]
    exact hpending i hi
  rw [waiting, awaitReceipt, attempt_within, attempt_pollReceipt_add _ _ _ _ _ _ _ hreplies,
    List.nil_append]

/-- Behind pending answers the next reply decides, if there is a question left for it. -/
theorem waiting_add_succ (rest k : Nat) (hpending : ∀ i < k, Pending (replies i)) :
    a.waiting hash replies others (rest + 1 + k)
      = match news (replies k) with
        | .ok none =>
          attempt replies others (a.pollReceipt hash rest) (a.receiptRequests hash (k + 1))
        | .ok (some receipt) => (.ok (some (.ofReceipt receipt)), a.receiptRequests hash (k + 1))
        | .error e => (.error (.rpc e), a.receiptRequests hash (k + 1)) := by
  have hall : a.receiptRequests hash k ++ a.receiptRequests hash 1
      = a.receiptRequests hash (k + 1) := List.replicate_append_replicate
  have hlength : (a.receiptRequests hash k).length = k := List.length_replicate
  rw [waiting_add _ _ _ _ _ _ hpending, attempt_pollReceipt_succ, hall, hlength]

/-- After any number of pending answers the account asks once more, always for the same receipt.
What the next reply brings is the outcome, a receipt with its success or its failure, and what the
request fails with is the error. Then nothing more is sent, however many questions might have been
asked. With fewer questions than that nothing has come of it yet. There is no reply beyond these
three kinds. -/
theorem settled_awaitReceipt (k : Nat) (hpending : ∀ i < k, Pending (replies i)) :
    (∀ polls ≤ k, a.waiting hash replies others polls = (.ok none, a.receiptRequests hash polls))
      ∧ (∀ polls > k,
        (∀ receipt, Brings (replies k) receipt → receipt.success = true →
          a.waiting hash replies others polls
            = (.ok (some (.confirmed receipt)), a.receiptRequests hash (k + 1)))
        ∧ (∀ receipt, Brings (replies k) receipt → receipt.success = false →
          a.waiting hash replies others polls
            = (.ok (some (.failed receipt)), a.receiptRequests hash (k + 1)))
        ∧ ∀ e, Fails (replies k) e →
          a.waiting hash replies others polls
            = (.error (.rpc e), a.receiptRequests hash (k + 1)))
      ∧ (Pending (replies k) ∨ (∃ receipt, Brings (replies k) receipt)
        ∨ ∃ e, Fails (replies k) e) := by
  refine ⟨?_, ?_, Rpc.Bundler.pending_or_brings_or_fails (replies k)⟩
  · intro polls hpolls
    have hfewer : ∀ i < polls, Pending (replies i) := by
      intro i hi
      exact hpending i (by omega)
    have hgiven := a.waiting_add hash replies others 0 polls hfewer
    rw [Nat.zero_add] at hgiven
    rw [hgiven]
    rfl
  · intro polls hpolls
    obtain ⟨rest, rfl⟩ : ∃ rest, polls = rest + 1 + k := ⟨polls - k - 1, by omega⟩
    have hnext := a.waiting_add_succ hash replies others rest k hpending
    refine ⟨?_, ?_, ?_⟩
    · intro receipt hbrings hsuccess
      rw [hnext, Rpc.Bundler.news_eq_receipt_iff.mpr hbrings]
      simp only [Outcome.ofReceipt, hsuccess, if_true]
    · intro receipt hbrings hsuccess
      rw [hnext, Rpc.Bundler.news_eq_receipt_iff.mpr hbrings]
      simp [Outcome.ofReceipt, hsuccess]
    · intro e hfails
      rw [hnext, Rpc.Bundler.news_eq_error_iff.mpr hfails]

/-! ### A receipt at the third question -/

/-- The receipt of an operation that was included and failed. -/
def reverted : Receipt where
  hash := ⟨0xf562⟩
  entryPoint := none
  sender := ⟨0xf139⟩
  nonce := 3
  paymaster := none
  gasCost := 0x1b7c
  gasUsed := 0x1c0b
  success := false
  reason := none
  bundle := ⟨⟨0x1111⟩, none, none⟩

/-- A body that says that there is no error and no receipt. -/
def unknownText : String :=
  "\x7b\"id\":7,\"result\":null,\"error\":null\x7d"

/-- A body with the receipt, as its characters. -/
def revertedText : List Char :=
  "\x7b\"result\":\x7b\"userOpHash\":\"0x".toList ++ List.replicate 60 '0'
    ++ "f562\",\"sender\":\"0x".toList ++ List.replicate 36 '0'
    ++ "f139\",\"nonce\":\"0x3\",".toList ++ "\"actualGasCost\":\"0x1b7c\",".toList
    ++ "\"actualGasUsed\":\"0x1c0b\",\"success\":false,".toList
    ++ "\"receipt\":\x7b\"transactionHash\":\"0x".toList ++ List.replicate 60 '0'
    ++ "1111\"\x7d\x7d\x7d".toList

/-- The bundler knows nothing twice, then has the receipt, and would have it ever after. -/
def revertedReplies : Nat → Rpc.Reply
  | 0 => .answer 200 (Bytes.ofText unknownText)
  | 1 => .answer 200 (Bytes.ofText unknownText)
  | _ => .answer 200 (Bytes.ofText (String.ofList revertedText))

theorem pending_unknownText : Pending (.answer 200 (Bytes.ofText unknownText)) := by
  have hfields : Json.Fields ["error", "result"] (Bytes.ofText unknownText)
      [("id", [55]), ("result", Json.nullText), ("error", Json.nullText)] :=
    Json.readRecord_eq_some_iff.mp (by decide +kernel)
  have hnull : Json.readBytes (Json.maxDepth - 1) Json.nullText = some .null := by
    with_unfolding_all rfl
  refine .intro (by decide) hfields ?_ (by simp) hnull
  intro fault hfault
  simpa using hfault

theorem brings_revertedText : Brings (revertedReplies 2) reverted := by
  refine Rpc.Bundler.news_eq_receipt_iff.mp (toOption_eq_some_iff.mp ?_)
  rw [revertedReplies, Bytes.ofText, String.toList_ofList]
  · decide +kernel
  · decide
  · decide

/-- Three questions are asked for the receipt, although there might have been a hundred. -/
theorem settled_awaitReceipt_reverted :
    newcomerAccount.waiting ⟨0xf562⟩ revertedReplies
        (fun question => (Rehearsal.Stage.answer {} question).1) 100
      = (.ok (some (.failed reverted)), newcomerAccount.receiptRequests ⟨0xf562⟩ 3) := by
  have hpending : ∀ i < 2, Pending (revertedReplies i) := by
    intro i hi
    match i, hi with
    | 0, _ => exact pending_unknownText
    | 1, _ => exact pending_unknownText
  exact ((newcomerAccount.settled_awaitReceipt ⟨0xf562⟩ revertedReplies _ 2 hpending).2.1 100
    (by decide)).2.1 reverted brings_revertedText rfl

end Account

end SafeOps
