import SafeOps.Abi
import SafeOps.Proofs.Bytes

/-!
# `SafeOps.Proofs.Abi`: arguments are read back from their layout

The head of an argument says where its tail stands, so what is read depends on two places of
the data at once. `Stands args position part` says that `part` is found at a position. A layout
that stands somewhere gives way to its parts (`Stands.left`, `Stands.right`), and each reader
has a lemma that names the part it asks for: `wordAt_of_stands`, `sizeAt_of_stands`,
`tupleAt_of_stands`, `arrayAt_of_stands`, `bytesAt_of_stands`.

`readFrom_of_stands` puts them together, by induction on the argument types, with heads and
tails at places of their own. `Function.decode_encode` is the case of a whole call: whatever
bytes follow the call, its arguments come back.

Numbers wider than a word do not survive (`Scalar.Exact`), and texts are only ever read from
answers, so `Ty.Exact` leaves both out.
-/

set_option autoImplicit false

namespace SafeOps.Abi

/-! ### What a word can hold -/

/-- Values of the type fit a word. -/
def Scalar.Exact : Scalar → Prop
  | .address | .bool => True
  | .uint bits => bits ≤ 256

instance : DecidablePred Scalar.Exact
  | .address => inferInstanceAs (Decidable True)
  | .bool => inferInstanceAs (Decidable True)
  | .uint bits => inferInstanceAs (Decidable (bits ≤ 256))

/-- Values of the type can be told from their layout. -/
def Ty.Exact : Ty → Prop
  | .scalar s | .array s => s.Exact
  | .tuple ss => ∀ s ∈ ss, s.Exact
  | .bytes => True
  | .string => False

instance : DecidablePred Ty.Exact
  | .scalar s | .array s => inferInstanceAs (Decidable s.Exact)
  | .tuple ss => inferInstanceAs (Decidable (∀ s ∈ ss, s.Exact))
  | .bytes => inferInstanceAs (Decidable True)
  | .string => inferInstanceAs (Decidable False)

theorem Scalar.ofWord_toWord {s : Scalar} (hs : s.Exact) (v : s.Val) :
    s.ofWord (s.toWord v) = v := by
  cases s with
  | address => exact Address.ofWord_toWord v
  | bool => cases v <;> decide
  | uint bits =>
    show (BitVec.setWidth 256 v).setWidth bits = v
    rw [BitVec.setWidth_setWidth_of_le v hs, BitVec.setWidth_eq]

/-! ### Parts in their places -/

/-- A part of the data starts at a position. -/
def Stands (args : Bytes) (position : Nat) (part : Bytes) : Prop :=
  part <+: args.drop position

section Places

variable {args part part' : Bytes} {position : Nat}

theorem Stands.left (h : Stands args position (part ++ part')) : Stands args position part :=
  (List.prefix_append part part').trans h

theorem Stands.right (h : Stands args position (part ++ part')) :
    Stands args (position + part.length) part' := by
  obtain ⟨rest, hrest⟩ := h
  refine ⟨rest, ?_⟩
  rw [← List.drop_drop, ← hrest, List.append_assoc, List.drop_left]

theorem Stands.take (h : Stands args position part) :
    (args.drop position).take part.length = part := by
  obtain ⟨rest, hrest⟩ := h
  rw [← hrest, List.take_left]

theorem Stands.length_le (h : Stands args position part) :
    part.length ≤ (args.drop position).length :=
  List.IsPrefix.length_le h

end Places

/-! ### Words and sizes -/

@[simp] theorem length_wordBytes (w : Word) : (wordBytes w).length = 32 :=
  Bytes.length_ofBits 32 w

@[simp] theorem length_sizeBytes (n : Nat) : (sizeBytes n).length = 32 :=
  Bytes.length_ofNat 32 n

section Readers

variable {args : Bytes} {position offset : Nat}

theorem wordAt_of_stands {w : Word} (h : Stands args position (wordBytes w)) :
    wordAt args position = .ok w := by
  have hword : (args.drop position).take 32 = wordBytes w := by
    have htake := h.take
    rwa [length_wordBytes] at htake
  have hread : Bytes.toBits 256 (wordBytes w) = w := Bytes.toBits_ofBits (by decide) w
  simp only [wordAt, hword, length_wordBytes, if_true, hread]

theorem wordBytes_ofNat {n : Nat} (h : n < limit 64) :
    wordBytes (BitVec.ofNat 256 n) = sizeBytes n := by
  have hn : n < 2 ^ 256 := Nat.lt_of_lt_of_le h (limit_le_limit (show 64 ≤ 256 by decide))
  rw [wordBytes, Bytes.ofBits, BitVec.toNat_ofNat, Nat.mod_eq_of_lt hn, sizeBytes]

theorem sizeAt_of_stands {n : Nat} (hn : n < limit 64)
    (h : Stands args position (sizeBytes n)) : sizeAt args position = .ok n := by
  rw [← wordBytes_ofNat hn] at h
  have htoNat : (BitVec.ofNat 256 n).toNat = n := by
    have hlt : n < 2 ^ 256 := Nat.lt_of_lt_of_le hn (limit_le_limit (show 64 ≤ 256 by decide))
    rw [BitVec.toNat_ofNat, Nat.mod_eq_of_lt hlt]
  rw [sizeAt, wordAt_of_stands h]
  show (if (BitVec.ofNat 256 n).toNat < limit 64 then _ else _) = _
  rw [htoNat, if_pos hn]

/-! ### One argument -/

theorem length_tupleBytes (ss : List Scalar) (vs : Tuple ss) :
    (tupleBytes ss vs).length = 32 * ss.length := by
  induction ss with
  | nil => rfl
  | cons s ss ih =>
    rw [tupleBytes, List.length_append, length_wordBytes, ih, List.length_cons]
    omega

theorem tupleAt_of_stands {ss : List Scalar} (hss : ∀ s ∈ ss, s.Exact) (vs : Tuple ss)
    (h : Stands args position (tupleBytes ss vs)) : tupleAt args ss position = .ok vs := by
  induction ss generalizing position with
  | nil => rfl
  | cons s ss ih =>
    obtain ⟨v, vs⟩ := vs
    have hword : wordAt args position = .ok (s.toWord v) := wordAt_of_stands h.left
    have hrest : tupleAt args ss (position + 32) = .ok vs := by
      have hright := h.right
      rw [length_wordBytes] at hright
      exact ih (fun s' hs' => hss s' (List.mem_cons_of_mem s hs')) vs hright
    have hv : s.ofWord (s.toWord v) = v := Scalar.ofWord_toWord (hss s List.mem_cons_self) v
    rw [tupleAt, hword]
    show (tupleAt args ss (position + 32) >>= fun ws => _) = _
    rw [hrest, hv]
    rfl

/-- The words of an array. -/
def arrayBytes (s : Scalar) (vs : List s.Val) : Bytes :=
  vs.flatMap fun v => wordBytes (s.toWord v)

theorem length_arrayBytes (s : Scalar) (vs : List s.Val) :
    (arrayBytes s vs).length = 32 * vs.length := by
  induction vs with
  | nil => rfl
  | cons v vs ih =>
    rw [arrayBytes, List.flatMap_cons, List.length_append, length_wordBytes, ← arrayBytes, ih,
      List.length_cons]
    omega

theorem scalarsIn_arrayBytes {s : Scalar} (hs : s.Exact) (vs : List s.Val) (rest : Bytes) :
    scalarsIn s vs.length (arrayBytes s vs ++ rest) = vs := by
  induction vs with
  | nil => rfl
  | cons v vs ih =>
    have hsplit : arrayBytes s (v :: vs) ++ rest
        = wordBytes (s.toWord v) ++ (arrayBytes s vs ++ rest) := by
      rw [arrayBytes, List.flatMap_cons, ← arrayBytes, List.append_assoc]
    have hword : (wordBytes (s.toWord v) ++ (arrayBytes s vs ++ rest)).take 32
        = wordBytes (s.toWord v) := List.take_left' (length_wordBytes _)
    have hrest : (wordBytes (s.toWord v) ++ (arrayBytes s vs ++ rest)).drop 32
        = arrayBytes s vs ++ rest := List.drop_left' (length_wordBytes _)
    have hread : Bytes.toBits 256 (wordBytes (s.toWord v)) = s.toWord v :=
      Bytes.toBits_ofBits (by decide) _
    rw [hsplit, List.length_cons, scalarsIn, hword, hrest, hread, Scalar.ofWord_toWord hs, ih]

theorem arrayAt_of_stands {s : Scalar} (hs : s.Exact) {vs : List s.Val}
    (hoffset : offset < limit 64) (hlength : vs.length < limit 64)
    (hhead : Stands args position (sizeBytes offset))
    (htail : Stands args offset (sizeBytes vs.length ++ arrayBytes s vs)) :
    arrayAt args s position = .ok vs := by
  have hsize : sizeAt args offset = .ok vs.length := sizeAt_of_stands hlength htail.left
  have hwords : Stands args (offset + 32) (arrayBytes s vs) := by
    have hright := htail.right
    rwa [length_sizeBytes] at hright
  have hroom : vs.length ≤ (args.drop (offset + 32)).length / 32 := by
    have hle := hwords.length_le
    rw [length_arrayBytes] at hle
    omega
  obtain ⟨rest, hrest⟩ := hwords
  -- Two words lead to the content: its offset in the head, and its size at that offset.
  rw [arrayAt, sizeAt_of_stands hoffset hhead]
  show (sizeAt args offset >>= fun size => _) = _
  rw [hsize]
  show (if vs.length ≤ (args.drop (offset + 32)).length / 32
    then Except.ok (scalarsIn s vs.length (args.drop (offset + 32))) else _) = _
  rw [if_pos hroom, ← hrest, scalarsIn_arrayBytes hs]

theorem bytesAt_of_stands {bs : Bytes} (hoffset : offset < limit 64)
    (hlength : bs.length < limit 64) (hhead : Stands args position (sizeBytes offset))
    (htail : Stands args offset (sizeBytes bs.length ++ Bytes.pad32 bs)) :
    bytesAt args position = .ok bs := by
  have hsize : sizeAt args offset = .ok bs.length := sizeAt_of_stands hlength htail.left
  have hcontent : Stands args (offset + 32) bs := by
    have hright := htail.right
    rw [length_sizeBytes] at hright
    exact hright.left
  rw [bytesAt, sizeAt_of_stands hoffset hhead]
  show (sizeAt args offset >>= fun size => _) = _
  rw [hsize]
  show (if bs.length ≤ (args.drop (offset + 32)).length
    then Except.ok ((args.drop (offset + 32)).take bs.length) else _) = _
  rw [if_pos hcontent.length_le, hcontent.take]

theorem Ty.length_head (t : Ty) (v : t.Val) : (t.head offset v).length = t.headSize := by
  cases t with
  | scalar s => exact length_wordBytes _
  | tuple ss => exact length_tupleBytes ss v
  | array s => exact length_sizeBytes offset
  | bytes => exact length_sizeBytes offset
  | string => exact length_sizeBytes offset

/-- An argument is read where its head stands, if its tail stands where the head says. -/
theorem Ty.readAt_of_stands {t : Ty} (ht : t.Exact) (v : t.Val)
    (hhead : Stands args position (t.head offset v)) (htail : Stands args offset (t.tail v))
    (hsize : offset + (t.tail v).length < limit 64) : t.readAt args position = .ok v := by
  cases t with
  | scalar s =>
    show (wordAt args position).map s.ofWord = .ok v
    rw [wordAt_of_stands hhead]
    exact congrArg Except.ok (Scalar.ofWord_toWord ht v)
  | tuple ss => exact tupleAt_of_stands ht v hhead
  | array s =>
    rw [Ty.tail, List.length_append, length_sizeBytes, ← arrayBytes, length_arrayBytes] at hsize
    exact arrayAt_of_stands ht (by omega) (by omega) hhead htail
  | bytes =>
    have hle : v.length ≤ (Bytes.pad32 v).length := by
      rw [Bytes.pad32, List.length_append]
      omega
    rw [Ty.tail, List.length_append, length_sizeBytes] at hsize
    exact bytesAt_of_stands (by omega) (by omega) hhead htail
  | string => exact ht.elim

/-! ### Several arguments -/

theorem length_heads (ts : List Ty) (vs : Vals ts) :
    (heads offset ts vs).length = headSize ts := by
  induction ts generalizing offset with
  | nil => rfl
  | cons t ts ih =>
    obtain ⟨v, vs⟩ := vs
    rw [heads, List.length_append, Ty.length_head, ih]
    rfl

/-- The main statement: arguments are read from where their heads stand, if their tails stand
one after another from `offset` on. -/
theorem readFrom_of_stands {ts : List Ty} (hts : ∀ t ∈ ts, t.Exact) (vs : Vals ts)
    (hheads : Stands args position (heads offset ts vs))
    (htails : Stands args offset (tails ts vs))
    (hsize : offset + (tails ts vs).length < limit 64) : readFrom args ts position = .ok vs := by
  -- Each argument moves the head on by its size and the tails on by what it puts there.
  induction ts generalizing position offset with
  | nil => rfl
  | cons t ts ih =>
    obtain ⟨v, vs⟩ := vs
    rw [tails, List.length_append] at hsize
    have hfirst : t.readAt args position = .ok v :=
      Ty.readAt_of_stands (hts t List.mem_cons_self) v hheads.left htails.left (by omega)
    have hothers : readFrom args ts (position + t.headSize) = .ok vs := by
      have hheads' := hheads.right
      rw [Ty.length_head] at hheads'
      exact ih (fun t' ht' => hts t' (List.mem_cons_of_mem t ht')) vs hheads' htails.right
        (by omega)
    rw [readFrom, hfirst]
    show (readFrom args ts (position + t.headSize) >>= fun vs' => _) = _
    rw [hothers]
    rfl

end Readers

theorem length_encode (ts : List Ty) (vs : Vals ts) :
    (encode ts vs).length = headSize ts + (tails ts vs).length := by
  rw [encode, List.length_append, length_heads]

/-- Arguments are read back from their layout, whatever follows it. -/
theorem decode_encode {ts : List Ty} (hts : ∀ t ∈ ts, t.Exact) (vs : Vals ts) (suffix : Bytes)
    (hsize : (encode ts vs).length < limit 64) : decode ts (encode ts vs ++ suffix) = .ok vs := by
  have hstands : Stands (encode ts vs ++ suffix) 0 (heads (headSize ts) ts vs ++ tails ts vs) :=
    List.prefix_append _ _
  have htails := hstands.right
  rw [length_heads, Nat.zero_add] at htails
  rw [length_encode] at hsize
  exact readFrom_of_stands hts vs hstands.left htails hsize

namespace Function

@[simp] theorem length_selector (f : Function) : f.selector.length = 4 := by
  rw [selector, List.length_take, Hash.length_toBytes]
  rfl

theorem length_encode (f : Function) (vs : Vals f.arguments) :
    (f.encode vs).length = 4 + headSize f.arguments + (tails f.arguments vs).length := by
  rw [encode, List.length_append, length_selector, Abi.length_encode, Nat.add_assoc]

theorem decode_append (f : Function) (args : Bytes) :
    f.decode (f.selector ++ args) = Abi.decode f.arguments args := by
  have hprefix : f.selector.isPrefixOf (f.selector ++ args) = true :=
    List.isPrefixOf_iff_prefix.mpr (List.prefix_append _ _)
  rw [decode, if_pos hprefix, List.drop_left' (length_selector f)]

/-- The arguments of a call come back from its data, whatever follows them. -/
theorem decode_encode {f : Function} (hf : ∀ t ∈ f.arguments, t.Exact) (vs : Vals f.arguments)
    (suffix : Bytes) (hsize : (f.encode vs).length < limit 64) :
    f.decode (f.encode vs ++ suffix) = .ok vs := by
  have hargs : (Abi.encode f.arguments vs).length < limit 64 := by
    rw [encode, List.length_append] at hsize
    omega
  rw [encode, List.append_assoc, decode_append]
  exact Abi.decode_encode hf vs suffix hargs

end Function

end SafeOps.Abi
