import SafeOps.Proofs.Program.Outcome
import SafeOps.Rpc.Client

/-!
# `SafeOps.Proofs.Rpc.Client`: a request is one exchange

A request is surrounded by messages to the host, which differ with the reply. What remains is one
question and what its reply means: `ends_ask_iff` for all runs, `gives_ask_iff` for those that
succeed, and `asks_ask` for what may be asked at all.
-/

set_option autoImplicit false

namespace SafeOps.Rpc

variable {α : Type} {service : Endpoint} {method : String} {params : Json}
  {read : Json → Option α}

/-- The warning after a reply is a message, so with it and without it the result is the same. -/
theorem ends_warned_iff {reply : Rpc.Reply} {t : List Exchange} {r : Except RpcError α} :
    (do
      if let some text := warning service.host method reply then Attempt.tell .warn text
      Attempt.ofExcept (interpret method read reply)).Ends t r
      ↔ t = [] ∧ interpret method read reply = r := by
  cases warning service.host method reply with
  | none => exact Attempt.ends_ofExcept_iff
  | some text => exact Attempt.ends_tell_bind_iff.trans Attempt.ends_ofExcept_iff

/-- A request is one exchange, and ends with what the reply means. -/
theorem ends_ask_iff {t : List Exchange} {r : Except RpcError α} :
    (ask service method params read).Ends t r ↔
      ∃ reply, t = [⟨.post service ⟨method, params⟩, reply⟩]
        ∧ interpret method read reply = r := by
  have hquestion : ¬ (Query.post service ⟨method, params⟩).IsMessage := id
  rw [ask, Attempt.ends_tell_bind_iff, Attempt.ends_query_bind_iff hquestion]
  constructor
  · rintro ⟨reply, rest, rfl, htail⟩
    obtain ⟨rfl, hresult⟩ := ends_warned_iff.mp htail
    exact ⟨reply, rfl, hresult⟩
  · rintro ⟨reply, rfl, hresult⟩
    exact ⟨reply, [], rfl, ends_warned_iff.mpr ⟨rfl, hresult⟩⟩

theorem gives_ask_iff {t : List Exchange} {a : α} :
    (ask service method params read).Gives t a ↔
      ∃ reply, t = [⟨.post service ⟨method, params⟩, reply⟩]
        ∧ interpret method read reply = .ok a :=
  Attempt.ends_ok_iff.symm.trans ends_ask_iff

theorem asks_ask {P : Query → Prop} (hpost : P (.post service ⟨method, params⟩))
    (htell : ∀ level context text, P (.tell level context text)) :
    (ask service method params read).run.Asks P := by
  refine Attempt.asks_bind (Attempt.asks_tell htell) fun _ => ?_
  refine Attempt.asks_bind (Attempt.asks_always (Program.asks_query hpost)) fun reply => ?_
  dsimp only
  cases warning service.host method reply with
  | none => exact Attempt.asks_ofExcept
  | some text => exact Attempt.asks_bind (Attempt.asks_tell htell) fun _ => Attempt.asks_ofExcept

end SafeOps.Rpc
