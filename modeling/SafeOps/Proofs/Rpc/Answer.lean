import SafeOps.Proofs.Json.Outline
import SafeOps.Proofs.Rpc.Client

/-!
# `SafeOps.Proofs.Rpc.Answer`: what the answer of a service means

The answer to a request has a status and a body, and the body of a successful one should be a
record with an `error` or a `result`. Each of the two may be missing, be `null` or hold something.
`Means` is what a record means by the two. An error that is not `null` counts whatever the result
is, and is either a refusal with a code and a message (`Refuses`) or nothing that can be read. A
result counts if it is there, also if it is `null`, and then it is up to the method what can be
read from it.

What else is in a body is not read and needs no more than the form of JSON (`Json.Fields`). So a
body may be understood although it is no text, where only a string that nobody reads spoils it
(`ends_ask_unread`). A result is read in any case, and one that cannot be read spoils the body even
where a refusal counts.

`Classified` puts this together with connections that fail, with answers whose status is none of
success, which are not looked into, and with bodies that are no record. It has a rule for every
reply and says the same as the program (`classified_iff`). The main statement, `classified_ask`, is
about requests: every reply ends one, and how it ends is what the reply means.
-/

set_option autoImplicit false

namespace SafeOps.Rpc

open Json (Fields)

/-! ### Refusals -/

/-- The text is that of a refusal with its code and its message. -/
inductive Refuses (text : Bytes) (code : Int) (message : String) : Prop
  | intro {members : List (String × Bytes)} {c m : Bytes}
      (hfields : Fields ["code", "message"] text members)
      (hcode : ("code", c) ∈ members) (hread : Json.readBytes 0 c = some (.int code))
      (hfits : -limit 63 ≤ code ∧ code < limit 63)
      (hmessage : ("message", m) ∈ members) (htext : Json.readBytes 0 m = some (.str message)) :
      Refuses text code message

theorem toCode_eq_some_iff {j : Json} {code : Int} :
    toCode j = some code ↔ j = .int code ∧ -limit 63 ≤ code ∧ code < limit 63 := by
  cases j with
  | int n =>
    rw [toCode, Option.ite_none_right_eq_some, Option.some.injEq, Json.int.injEq]
    constructor
    · rintro ⟨hfits, rfl⟩
      exact ⟨rfl, hfits⟩
    · rintro ⟨rfl, hfits⟩
      exact ⟨hfits, rfl⟩
  | _ => simp [toCode]

/-- What is read as a refusal is one, and nothing else is. -/
theorem readRefusal_eq_some_iff {text : Bytes} {code : Int} {message : String} :
    readRefusal text = some (code, message) ↔ Refuses text code message := by
  have hkeys : ["code", "message"].Nodup := by decide
  simp only [readRefusal, Option.bind_eq_bind, Option.bind_eq_some_iff, Option.pure_def,
    Option.some.injEq, Prod.mk.injEq, toCode_eq_some_iff, Json.toText_eq_some_iff]
  constructor
  · rintro ⟨members, hrecord, c, hc, _, hread, m, hm, _, htext, _, ⟨rfl, hfits⟩, _, rfl, rfl, rfl⟩
    have hfields := Json.readRecord_eq_some_iff.mp hrecord
    have hcount := hfields.count_le hkeys
    exact .intro hfields ((Json.lookup_eq_some_iff_mem (hcount _ (by decide))).mp hc) hread hfits
      ((Json.lookup_eq_some_iff_mem (hcount _ (by decide))).mp hm) htext
  · rintro ⟨hfields, hcode, hread, hfits, hmessage, htext⟩
    have hcount := hfields.count_le hkeys
    exact ⟨_, Json.readRecord_eq_some_iff.mpr hfields, _,
      (Json.lookup_eq_some_iff_mem (hcount _ (by decide))).mpr hcode, _, hread, _,
      (Json.lookup_eq_some_iff_mem (hcount _ (by decide))).mpr hmessage, _, htext, _,
      ⟨rfl, hfits⟩, _, rfl, rfl, rfl⟩

/-! ### Members -/

/-- There is no error, or it is `null`. -/
def NoError (members : List (String × Bytes)) : Prop :=
  ∀ fault, ("error", fault) ∈ members → fault = Json.nullText

section

variable {α : Type}

/-- What the members of a body mean as the answer for a method whose results `read` understands. -/
inductive Means (method : String) (read : Json → Option α) (members : List (String × Bytes)) :
    Except RpcError α → Prop
  | refused {fault : Bytes} {code : Int} {message : String} (herror : ("error", fault) ∈ members)
      (hrefuses : Refuses fault code message)
      (hreadable : ∀ text, ("result", text) ∈ members →
        ∃ result, Json.readBytes (Json.maxDepth - 1) text = some result) :
      Means method read members (.error (.refused code message))
  /-- An error that is not `null` is no refusal either. -/
  | garbled {fault : Bytes} (herror : ("error", fault) ∈ members) (hne : fault ≠ Json.nullText)
      (hrefuses : ∀ code message, ¬ Refuses fault code message) :
      Means method read members (.error .json)
  /-- The result has the form of JSON and no more. -/
  | unreadable {text : Bytes} (hresult : ("result", text) ∈ members)
      (hread : Json.readBytes (Json.maxDepth - 1) text = none) :
      Means method read members (.error .json)
  | value {text : Bytes} {result : Json} {a : α} (hnone : NoError members)
      (hresult : ("result", text) ∈ members)
      (hread : Json.readBytes (Json.maxDepth - 1) text = some result)
      (hvalue : read result = some a) : Means method read members (.ok a)
  | unexpected {text : Bytes} {result : Json} (hnone : NoError members)
      (hresult : ("result", text) ∈ members)
      (hread : Json.readBytes (Json.maxDepth - 1) text = some result)
      (hvalue : read result = none) :
      Means method read members (.error (.result (.unexpected method)))
  | missing (hnone : NoError members) (hresult : "result" ∉ members.map Prod.fst) :
      Means method read members (.error (.result .missing))

/-- How a reply is understood: a connection that fails is no answer, the status of an answer decides
first, then whether the body is a record, then what its members mean. -/
inductive Classified (method : String) (read : Json → Option α) : Reply → Except RpcError α → Prop
  | broken {reason : String} : Classified method read (.broken reason) (.error (.broken reason))
  | failed {status : Nat} {body : Bytes} (hstatus : ¬ (200 ≤ status ∧ status < 300)) :
      Classified method read (.answer status body)
        (.error (.status status (Text.Utf8.decodeLossy body)))
  | garbage {status : Nat} {body : Bytes} (hstatus : 200 ≤ status ∧ status < 300)
      (hfields : ∀ members, ¬ Fields ["error", "result"] body members) :
      Classified method read (.answer status body) (.error .json)
  | record {status : Nat} {body : Bytes} {members : List (String × Bytes)}
      {r : Except RpcError α} (hstatus : 200 ≤ status ∧ status < 300)
      (hfields : Fields ["error", "result"] body members)
      (hmeans : Means method read members r) : Classified method read (.answer status body) r

variable {method : String} {read : Json → Option α} {members : List (String × Bytes)}

theorem isSuccess_iff {status : Nat} : isSuccess status = true ↔ 200 ≤ status ∧ status < 300 := by
  rw [isSuccess, Bool.and_eq_true, decide_eq_true_iff, decide_eq_true_iff]

section

variable {body : Bytes} (hfields : Fields ["error", "result"] body members)

include hfields

theorem lookup_error_iff {text : Bytes} :
    members.lookup "error" = some text ↔ ("error", text) ∈ members :=
  Json.lookup_eq_some_iff_mem (hfields.count_le (by decide) _ (by decide))

theorem lookup_result_iff {text : Bytes} :
    members.lookup "result" = some text ↔ ("result", text) ∈ members :=
  Json.lookup_eq_some_iff_mem (hfields.count_le (by decide) _ (by decide))

/-- An error that is `null` is as good as none. -/
theorem refusalIn_of_noError (h : NoError members) : refusalIn members = some none := by
  unfold refusalIn
  cases herror : members.lookup "error" with
  | none => rfl
  | some fault => exact if_pos (h fault ((lookup_error_iff hfields).mp herror))

/-- Any other error is read. -/
theorem refusalIn_of_mem {fault : Bytes} (h : ("error", fault) ∈ members)
    (hne : fault ≠ Json.nullText) : refusalIn members = (readRefusal fault).map some := by
  rw [refusalIn, (lookup_error_iff hfields).mpr h]
  exact if_neg hne

theorem resultIn_of_mem {text : Bytes} (h : ("result", text) ∈ members) :
    resultIn members = (Json.readBytes (Json.maxDepth - 1) text).map some := by
  rw [resultIn, (lookup_result_iff hfields).mpr h]

theorem resultIn_of_not_mem (h : "result" ∉ members.map Prod.fst) :
    resultIn members = some none := by
  unfold resultIn
  cases hresult : members.lookup "result" with
  | none => rfl
  | some text =>
    have hmem := (lookup_result_iff hfields).mp hresult
    exact absurd (List.mem_map_of_mem (f := Prod.fst) hmem) h

/-- What the two members are read as decides, and a failure to read either comes first. -/
theorem resultOf_of_fields :
    resultOf body =
      match refusalIn members, resultIn members with
      | some (some (code, message)), some _ => .error (.refused code message)
      | some none, some (some result) => .ok result
      | some none, some none => .error (.result .missing)
      | _, _ => .error .json := by
  rw [resultOf, Json.readRecord_eq_some_iff.mpr hfields, Option.bind_eq_bind, Option.bind_some]
  cases refusalIn members with
  | none => rfl
  | some refusal? =>
    cases resultIn members with
    | none => cases refusal? <;> rfl
    | some result? => cases refusal? <;> cases result? <;> rfl

/-- What the members mean is what is understood. -/
theorem interpret_of_means {status : Nat} {r : Except RpcError α}
    (hstatus : 200 ≤ status ∧ status < 300) (h : Means method read members r) :
    interpret method read (.answer status body) = r := by
  rw [interpret, if_pos (isSuccess_iff.mpr hstatus), resultOf_of_fields hfields]
  cases h with
  | @refused fault code message herror hrefuses hreadable =>
    have hread := readRefusal_eq_some_iff.mpr hrefuses
    have hne : fault ≠ Json.nullText := by
      rintro rfl
      cases hread
    rw [refusalIn_of_mem hfields herror hne, hread]
    by_cases hresult : "result" ∈ members.map Prod.fst
    · obtain ⟨⟨_, text⟩, hmem, rfl⟩ := List.mem_map.mp hresult
      obtain ⟨result, hvalue⟩ := hreadable text hmem
      rw [resultIn_of_mem hfields hmem, hvalue]
      rfl
    · rw [resultIn_of_not_mem hfields hresult]
      rfl
  | garbled herror hne hrefuses =>
    have hread : ∀ refusal, readRefusal _ ≠ some refusal := fun (code, message) hread =>
      hrefuses code message (readRefusal_eq_some_iff.mp hread)
    rw [refusalIn_of_mem hfields herror hne, Option.eq_none_iff_forall_ne_some.mpr hread]
    rfl
  | unreadable hresult hread =>
    rw [resultIn_of_mem hfields hresult, hread]
    cases refusalIn members with
    | none => rfl
    | some refusal? => cases refusal? <;> rfl
  | value hnone hresult hread hvalue =>
    rw [refusalIn_of_noError hfields hnone, resultIn_of_mem hfields hresult, hread]
    dsimp only [Option.map_some]
    rw [hvalue]
  | unexpected hnone hresult hread hvalue =>
    rw [refusalIn_of_noError hfields hnone, resultIn_of_mem hfields hresult, hread]
    dsimp only [Option.map_some]
    rw [hvalue]
  | missing hnone hresult =>
    rw [refusalIn_of_noError hfields hnone, resultIn_of_not_mem hfields hresult]

end

/-- All members mean something. -/
theorem exists_means (method : String) (read : Json → Option α)
    (members : List (String × Bytes)) : ∃ r, Means method read members r := by
  by_cases hunreadable : ∃ text, ("result", text) ∈ members ∧
      Json.readBytes (Json.maxDepth - 1) text = none
  · obtain ⟨text, hresult, hread⟩ := hunreadable
    exact ⟨_, .unreadable hresult hread⟩
  · have hreadable : ∀ text, ("result", text) ∈ members →
        ∃ result, Json.readBytes (Json.maxDepth - 1) text = some result := by
      intro text hresult
      refine Option.ne_none_iff_exists'.mp fun hread => hunreadable ⟨text, hresult, hread⟩
    by_cases hnone : NoError members
    · by_cases hresult : "result" ∈ members.map Prod.fst
      · obtain ⟨⟨_, text⟩, hmem, rfl⟩ := List.mem_map.mp hresult
        obtain ⟨result, hread⟩ := hreadable text hmem
        cases hvalue : read result with
        | none => exact ⟨_, .unexpected hnone hmem hread hvalue⟩
        | some a => exact ⟨_, .value hnone hmem hread hvalue⟩
      · exact ⟨_, .missing hnone hresult⟩
    · obtain ⟨fault, hfault⟩ := not_forall.mp hnone
      obtain ⟨herror, hne⟩ := Classical.not_imp.mp hfault
      cases hread : readRefusal fault with
      | none =>
        refine ⟨_, .garbled herror hne fun code message hrefuses => ?_⟩
        rw [readRefusal_eq_some_iff.mpr hrefuses] at hread
        cases hread
      | some refusal =>
        exact ⟨_, .refused herror (readRefusal_eq_some_iff.mp hread) hreadable⟩

/-! ### Replies -/

/-- A body that is no record is not understood. -/
theorem resultOf_of_no_fields {body : Bytes}
    (h : ∀ members, ¬ Fields ["error", "result"] body members) : resultOf body = .error .json := by
  have hrecord : Json.readRecord ["error", "result"] body = none :=
    Option.eq_none_iff_forall_ne_some.mpr fun members hread =>
      h members (Json.readRecord_eq_some_iff.mp hread)
  rw [resultOf, hrecord]
  rfl

theorem interpret_of_classified {reply : Reply} {r : Except RpcError α}
    (h : Classified method read reply r) : interpret method read reply = r := by
  cases h with
  | broken => rfl
  | failed hstatus => exact if_neg (mt isSuccess_iff.mp hstatus)
  | garbage hstatus hfields =>
    rw [interpret, if_pos (isSuccess_iff.mpr hstatus), resultOf_of_no_fields hfields]
  | record hstatus hfields hmeans => exact interpret_of_means hfields hstatus hmeans

/-- A reply is understood in one way, and that is what the rules say. -/
theorem classified_iff {reply : Reply} {r : Except RpcError α} :
    Classified method read reply r ↔ interpret method read reply = r := by
  refine ⟨interpret_of_classified, ?_⟩
  rintro rfl
  -- There is a rule for every reply.
  have ⟨r, hr⟩ : ∃ r, Classified method read reply r := by
    cases reply with
    | broken reason => exact ⟨_, .broken⟩
    | answer status body =>
      by_cases hstatus : 200 ≤ status ∧ status < 300
      · by_cases hrecord : ∃ members, Fields ["error", "result"] body members
        · obtain ⟨members, hfields⟩ := hrecord
          obtain ⟨r, hmeans⟩ := exists_means method read members
          exact ⟨r, .record hstatus hfields hmeans⟩
        · exact ⟨_, .garbage hstatus (not_exists.mp hrecord)⟩
      · exact ⟨_, .failed hstatus⟩
  rw [interpret_of_classified hr]
  exact hr

/-- The reply is an answer of success without an error, and this is the result in its body. -/
inductive Holds : Reply → Json → Prop
  | intro {status : Nat} {body text : Bytes} {members : List (String × Bytes)} {result : Json}
      (hstatus : 200 ≤ status ∧ status < 300) (hfields : Fields ["error", "result"] body members)
      (hnone : NoError members) (hresult : ("result", text) ∈ members)
      (hread : Json.readBytes (Json.maxDepth - 1) text = some result) :
      Holds (.answer status body) result

/-- A reply is understood if it holds a result that the method can give. -/
theorem classified_ok_iff {reply : Reply} {a : α} :
    Classified method read reply (.ok a) ↔ ∃ result, Holds reply result ∧ read result = some a := by
  constructor
  · intro h
    cases h with
    | record hstatus hfields hmeans =>
      cases hmeans with
      | value hnone hresult hread hvalue =>
        exact ⟨_, .intro hstatus hfields hnone hresult hread, hvalue⟩
  · rintro ⟨result, ⟨hstatus, hfields, hnone, hresult, hread⟩, hvalue⟩
    exact .record hstatus hfields (.value hnone hresult hread hvalue)

/-- A request is one question to the service, and every reply ends it. It ends with what the reply
means, and with nothing else. In particular a body without even the form of JSON is never
understood. -/
theorem classified_ask (service : Endpoint) (method : String) (params : Json)
    (read : Json → Option α) :
    (∀ reply, ∃ r,
      (ask service method params read).Ends [⟨.post service ⟨method, params⟩, reply⟩] r)
    ∧ (∀ t r, (ask service method params read).Ends t r ↔
      ∃ reply, t = [⟨.post service ⟨method, params⟩, reply⟩] ∧ Classified method read reply r)
    ∧ ∀ status body r, 200 ≤ status ∧ status < 300 → ¬ Json.HasForm body →
      (Classified method read (.answer status body) r ↔ r = .error .json) := by
  refine ⟨fun reply => ⟨_, ends_ask_iff.mpr ⟨reply, rfl, rfl⟩⟩, fun t r => ?_,
    fun status body r hstatus hform => ?_⟩
  · rw [ends_ask_iff]
    exact exists_congr fun reply => and_congr_right fun _ => classified_iff.symm
  · have hgarbage : Classified method read (.answer status body) (.error .json) :=
      .garbage hstatus fun members hfields => hform hfields.hasForm
    rw [classified_iff, classified_iff.mp hgarbage, eq_comm]

end

/-! ### Members that nobody reads -/

/-- A bundler that runs on the machine itself. -/
def nearby : Endpoint :=
  ⟨⟨"http", some (.domain "localhost"), some 4337, "//localhost:4337/"⟩, "localhost"⟩

/-- A body with a refusal. Beside the code and the message it has a number that is too large, and
beside the error a string with a byte that is part of no character. -/
def refusalBody : Bytes :=
  Bytes.ofText "\x7b\"error\":\x7b\"code\":-32500,\"message\":\"AA21\",\"data\":1e999\x7d,\"id\":\""
    ++ 255 :: Bytes.ofText "\"\x7d"

/-- The text of the refusal itself. -/
def refusalText : Bytes :=
  Bytes.ofText "\x7b\"code\":-32500,\"message\":\"AA21\",\"data\":1e999\x7d"

theorem refuses_refusalText : Refuses refusalText (-32500) "AA21" := by
  refine readRefusal_eq_some_iff.mp ?_
  decide +kernel

theorem fields_refusalBody : Fields ["error", "result"] refusalBody
    [("error", refusalText), ("id", [34, 255, 34])] := by
  refine Json.readRecord_eq_some_iff.mp ?_
  decide +kernel

/-- The refusal counts, although the body is no text. A body that breaks off before its first byte
is not understood. -/
theorem classified_ask_refused :
    Text.Utf8.decode? refusalBody = none
    ∧ (ask nearby "eth_sendUserOperation" (.arr []) some).Ends
      [⟨.post nearby ⟨"eth_sendUserOperation", .arr []⟩, .answer 200 refusalBody⟩]
      (.error (.refused (-32500) "AA21"))
    ∧ ¬ Json.HasForm []
    ∧ ∀ r, Classified "eth_sendUserOperation" some (.answer 200 []) r ↔ r = .error .json := by
  obtain ⟨-, hends, hform⟩ := classified_ask nearby "eth_sendUserOperation" (.arr []) some
  have hempty : ¬ Json.HasForm [] := by
    generalize hbody : ([] : Bytes) = body
    rintro ⟨-, hvalue, -⟩
    obtain ⟨b, t, rfl, -⟩ := hvalue.starts
    simp at hbody
  have hmeans : Means "eth_sendUserOperation" some
      [("error", refusalText), ("id", [34, 255, 34])] (.error (.refused (-32500) "AA21")) :=
    .refused (by decide) refuses_refusalText (by simp)
  refine ⟨by decide +kernel, ?_, hempty, fun r => hform 200 [] r (by decide) hempty⟩
  exact (hends _ _).mpr ⟨_, rfl, .record (by decide) fields_refusalBody hmeans⟩

/-- A body with a result, and a string with a byte that is part of no character. -/
def unreadBody : Bytes :=
  Bytes.ofText "\x7b\"id\":\"" ++ 255 :: Bytes.ofText "\",\"result\":null\x7d"

/-- A body with a refusal, and a result that is a number of the right form but too large. -/
def spoiledBody : Bytes :=
  Bytes.ofText "\x7b\"error\":\x7b\"code\":3,\"message\":\"reverted\"\x7d,\"result\":1e999\x7d"

/-- Not every body that is no text is refused, and not every refusal is told. -/
theorem ends_ask_unread :
    (Text.Utf8.decode? unreadBody = none ∧ Json.readBytes Json.maxDepth unreadBody = none
      ∧ (ask nearby "eth_chainId" (.arr []) some).Ends
        [⟨.post nearby ⟨"eth_chainId", .arr []⟩, .answer 200 unreadBody⟩] (.ok .null))
    ∧ ∃ fault text, Json.HasForm spoiledBody
      ∧ Fields ["error", "result"] spoiledBody [("error", fault), ("result", text)]
      ∧ Refuses fault 3 "reverted"
      ∧ (ask nearby "eth_chainId" (.arr []) some).Ends
        [⟨.post nearby ⟨"eth_chainId", .arr []⟩, .answer 200 spoiledBody⟩] (.error .json) := by
  have hunread : Fields ["error", "result"] unreadBody
      [("id", [34, 255, 34]), ("result", Json.nullText)] :=
    Json.readRecord_eq_some_iff.mp (by decide +kernel)
  have hnull : Json.readBytes (Json.maxDepth - 1) Json.nullText = some .null := by
    with_unfolding_all rfl
  have hspoiled : Fields ["error", "result"] spoiledBody
      [("error", Bytes.ofText "\x7b\"code\":3,\"message\":\"reverted\"\x7d"),
        ("result", Bytes.ofText "1e999")] :=
    Json.readRecord_eq_some_iff.mp (by decide +kernel)
  have hlarge : Json.readBytes (Json.maxDepth - 1) (Bytes.ofText "1e999") = none :=
    Option.isNone_iff_eq_none.mp (by decide +kernel)
  have hnoText : Text.Utf8.decode? unreadBody = none := by decide +kernel
  have hnoJson : Json.readBytes Json.maxDepth unreadBody = none := by
    rw [Json.readBytes, hnoText]
    rfl
  refine ⟨⟨hnoText, hnoJson, ?_⟩, _, _, hspoiled.hasForm, hspoiled,
    readRefusal_eq_some_iff.mp (by decide +kernel), ?_⟩
  · refine ends_ask_iff.mpr ⟨_, rfl, interpret_of_means hunread (by decide) ?_⟩
    exact .value (by simp [NoError]) (by decide) hnull rfl
  · refine ends_ask_iff.mpr ⟨_, rfl, interpret_of_means hspoiled (by decide) ?_⟩
    exact .unreadable (by decide) hlarge

end SafeOps.Rpc
