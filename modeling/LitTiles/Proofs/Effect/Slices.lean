import LitTiles.Proofs.Effect.Calls

/-!
# Binding by bytes

A text can also be bound by the numbers of its bytes. A reader of this kind keeps a place in the
text and cuts slices out of it, and the number of bytes of a call is summed up from its parts
(`readSlices`). A slice must not begin or end inside of a character; there is none then
(`sliceFrom?`, `sliceTo?`), and the reader fails.

It never does, and what it writes is the bound text (`bindAt_zero`).
-/

namespace LitTiles

variable {b : Bool} {c : Char} {i n : Nat} {r s t u x y : List Char}

/-! ## Bytes of a text -/

/-- The number of bytes of a text. -/
def byteLength : List Char → Nat
  | [] => 0
  | c :: r => c.utf8Size + byteLength r

@[simp] theorem byteLength_nil : byteLength [] = 0 := rfl

@[simp] theorem byteLength_cons (c : Char) (s : List Char) :
    byteLength (c :: s) = c.utf8Size + byteLength s := rfl

/-- Bytes of texts add up. -/
@[simp] theorem byteLength_append (s t : List Char) :
    byteLength (s ++ t) = byteLength s + byteLength t := by
  induction s with
  | nil => rw [List.nil_append, byteLength_nil, Nat.zero_add]
  | cons c s ih => rw [List.cons_append, byteLength_cons, byteLength_cons, ih, Nat.add_assoc]

/-- The bytes that are counted here are those of the string in memory. -/
theorem utf8ByteSize_ofList (s : List Char) : (String.ofList s).utf8ByteSize = byteLength s := by
  induction s with
  | nil => rfl
  | cons c s ih =>
    rw [String.ofList_cons, String.utf8ByteSize_append, String.utf8ByteSize_singleton,
      ih, byteLength_cons]

/-- The text behind a number of bytes, unless they end inside of a character. -/
def sliceFrom? : Nat → List Char → Option (List Char)
  | 0, s => some s
  | _ + 1, [] => none
  | n + 1, c :: r => if c.utf8Size ≤ n + 1 then sliceFrom? (n + 1 - c.utf8Size) r else none

/-- The text of a number of bytes, unless they end inside of a character. -/
def sliceTo? : Nat → List Char → Option (List Char)
  | 0, _ => some []
  | _ + 1, [] => none
  | n + 1, c :: r => if c.utf8Size ≤ n + 1 then (sliceTo? (n + 1 - c.utf8Size) r).map
    (c :: ·) else none

/-- A cut behind the first character is a cut of the rest. -/
theorem sliceFrom?_cons (c : Char) (n : Nat) (r : List Char) :
    sliceFrom? (c.utf8Size + n) (c :: r) = sliceFrom? n r := by
  obtain ⟨k, hk⟩ := Nat.exists_eq_succ_of_ne_zero c.utf8Size_pos.ne'
  have positive : c.utf8Size + n = k + n + 1 := by omega
  have rest : k + n + 1 - c.utf8Size = n := by omega
  rw [positive, sliceFrom?, if_pos (by omega), rest]

/-- The same for a slice up to a place. -/
theorem sliceTo?_cons (c : Char) (n : Nat) (r : List Char) :
    sliceTo? (c.utf8Size + n) (c :: r) = (sliceTo? n r).map (c :: ·) := by
  obtain ⟨k, hk⟩ := Nat.exists_eq_succ_of_ne_zero c.utf8Size_pos.ne'
  have positive : c.utf8Size + n = k + n + 1 := by omega
  have rest : k + n + 1 - c.utf8Size = n := by omega
  rw [positive, sliceTo?, if_pos (by omega), rest]

/-- A slice behind some bytes is the text behind some characters. -/
theorem sliceFrom?_eq_some_iff : sliceFrom? n s = some t ↔ ∃ x, s = x ++ t ∧ byteLength x = n := by
  constructor
  · intro h
    induction s generalizing n with
    | nil =>
      cases n with
      | zero => exact ⟨[], Option.some.inj h, rfl⟩
      | succ n => cases h
    | cons c r ih =>
      -- a cut that is not at the start has a whole character in front of it
      cases n with
      | zero => exact ⟨[], Option.some.inj h, rfl⟩
      | succ n =>
        unfold sliceFrom? at h
        split_ifs at h with hc
        obtain ⟨x, rfl, hx⟩ := ih h
        refine ⟨c :: x, rfl, ?_⟩
        rw [byteLength_cons, hx]
        omega
  · rintro ⟨x, rfl, rfl⟩
    induction x with
    | nil => rw [byteLength_nil, List.nil_append, sliceFrom?]
    | cons c x ih => rw [byteLength_cons, List.cons_append, sliceFrom?_cons, ih]

/-- There is one if the bytes are a position in the text. -/
theorem isSome_sliceFrom?_iff :
    (sliceFrom? n s).isSome = true ↔ (String.Pos.Raw.mk n).IsValid (String.ofList s) := by
  rw [Option.isSome_iff_exists, String.Pos.Raw.isValid_ofList]
  simp only [sliceFrom?_eq_some_iff, utf8ByteSize_ofList]
  constructor
  · rintro ⟨t, x, rfl, rfl⟩
    exact ⟨x.length, by rw [List.take_left]⟩
  · rintro ⟨i, hi⟩
    exact ⟨s.drop i, s.take i, (List.take_append_drop i s).symm, hi.symm⟩

/-- No slice begins at the second byte of the first character. -/
example : sliceFrom? 1 ['é', 'a'] = none ∧ sliceFrom? 2 ['é', 'a'] = some ['a'] := by decide

/-- At the end of a prefix there is always a cut, since a prefix ends with a whole character. -/
theorem sliceFrom?_append (x s : List Char) : sliceFrom? (byteLength x) (x ++ s) = some s :=
  sliceFrom?_eq_some_iff.mpr ⟨x, rfl, rfl⟩

/-- And what is in front of this cut is the prefix. -/
theorem sliceTo?_append (x s : List Char) : sliceTo? (byteLength x) (x ++ s) = some x := by
  induction x with
  | nil => rw [byteLength_nil, List.nil_append, sliceTo?]
  | cons c x ih => rw [byteLength_cons, List.cons_append, sliceTo?_cons, ih, Option.map_some]

/-- A slice is not longer than the text. -/
theorem length_sliceFrom? (h : sliceFrom? n s = some t) : t.length ≤ s.length := by
  obtain ⟨x, rfl, -⟩ := sliceFrom?_eq_some_iff.mp h
  simp

/-- It is shorter if something was cut off. This is what the recursion of the reader ends by. -/
theorem length_sliceFrom?_lt (h : sliceFrom? n s = some t) (hn : 0 < n) : t.length < s.length := by
  obtain ⟨x, rfl, rfl⟩ := sliceFrom?_eq_some_iff.mp h
  cases x with
  | nil => cases hn
  | cons c x =>
    rw [List.length_append, List.length_cons]
    omega

theorem TextureCall.byteLength_opening_pos : 0 < byteLength opening := by decide +kernel

/-- A slice between two numbers of bytes. -/
def slice? (first last : Nat) (s : List Char) : Option (List Char) :=
  (sliceTo? last s).bind (sliceFrom? first)

/-- The middle of three parts of a text is cut out by the bytes of the first two. -/
theorem slice?_append (x y s : List Char) :
    slice? (byteLength x) (byteLength x + byteLength y) (x ++ (y ++ s)) = some y := by
  rw [slice?, ← byteLength_append, ← List.append_assoc, sliceTo?_append, Option.bind_some,
    sliceFrom?_append]

/-- Whether a byte is a digit. -/
def isDigitByte (v : UInt8) : Bool := 48 ≤ v && v ≤ 57

/-- The number of bytes at the start of a text that are digits. -/
def digitBytes (s : List Char) : Nat :=
  ((s.flatMap String.utf8EncodeChar).takeWhile isDigitByte).length

/-- The byte of a digit is one, and stands alone. -/
theorem utf8EncodeChar_of_isDigit (h : c.isDigit = true) :
    c.utf8Size = 1 ∧ ∃ v, String.utf8EncodeChar c = [v] ∧ isDigitByte v = true := by
  obtain ⟨low, high⟩ := Char.isDigit_iff_toNat.mp h
  have small : c.val.toNat ≤ 127 := Nat.le_trans high (by decide)
  refine ⟨Char.utf8Size_eq_one_iff.mpr (UInt32.le_iff_toNat_le.mpr small),
    UInt8.ofNat c.val.toNat, ?_, ?_⟩
  · rw [String.utf8EncodeChar]
    exact if_pos small
  · have number : (UInt8.ofNat c.val.toNat).toNat = c.toNat := by
      rw [UInt8.toNat_ofNat']
      exact Nat.mod_eq_of_lt (Nat.lt_of_le_of_lt small (by decide))
    simp only [isDigitByte, Bool.and_eq_true, decide_eq_true_eq, UInt8.le_iff_toNat_le, number]
    exact ⟨low, high⟩

/-- The first byte of any other character is none. -/
theorem utf8EncodeChar_of_not_isDigit (h : c.isDigit = false) :
    ∃ v vs, String.utf8EncodeChar c = v :: vs ∧ isDigitByte v = false := by
  have outside : ¬ (48 ≤ c.val.toNat ∧ c.val.toNat ≤ 57) := by
    intro inside
    rw [Char.isDigit_iff_toNat.mpr inside] at h
    cases h
  have first : ∀ n : Nat, ¬ (48 ≤ n % 256 ∧ n % 256 ≤ 57) →
      isDigitByte (UInt8.ofNat n) = false := by
    intro n hn
    rw [Bool.eq_false_iff]
    simp only [isDigitByte, ne_eq, Bool.and_eq_true, decide_eq_true_eq, UInt8.le_iff_toNat_le,
      UInt8.toNat_ofNat']
    exact hn
  simp only [String.utf8EncodeChar]
  split_ifs
  all_goals
    refine ⟨_, _, rfl, first _ ?_⟩
    omega

/-- Counting bytes while they are digits counts characters that are: a digit is one byte, and no
byte of another character is a digit. -/
theorem digitBytes_eq (s : List Char) : digitBytes s = byteLength (s.takeWhile Char.isDigit) := by
  induction s with
  | nil => rfl
  | cons c r ih =>
    cases hc : c.isDigit with
    | true =>
      obtain ⟨one, v, hv, digit⟩ := utf8EncodeChar_of_isDigit hc
      rw [List.takeWhile_cons_of_pos hc, byteLength_cons, one, ← ih, digitBytes,
        List.flatMap_cons, hv, List.singleton_append, List.takeWhile_cons_of_pos digit,
        List.length_cons, Nat.add_comm]
      rfl
    | false =>
      obtain ⟨v, vs, hv, other⟩ := utf8EncodeChar_of_not_isDigit hc
      rw [List.takeWhile_cons_of_neg (by simp [hc]), digitBytes, List.flatMap_cons, hv,
        List.cons_append, List.takeWhile_cons_of_neg (by simp [other])]
      rfl

/-! ## Reading calls -/

/-- What is read of a call behind its opening, by bytes. -/
structure SlicedCall where
  /-- The channel. -/
  channel : Nat
  /-- The arguments, trimmed. -/
  args : List Char
  /-- The number of bytes up to the end of the call. -/
  consumed : Nat

/-- The number of bytes in front of the parenthesis that closes the first of `depth + 1` open
ones. -/
def closingOffset? : Nat → List Char → Option Nat
  | _, [] => none
  | depth, c :: r =>
    if c = ')' ∧ depth = 0 then some 0
    else (closingOffset? (openAfter depth c) r).map (c.utf8Size + ·)

/-- The place of the closing parenthesis is as many bytes into the text as there are in front of it,
for every depth. -/
theorem closingOffset?_eq (depth : Nat) (s : List Char) :
    closingOffset? depth s = (splitAtClosing depth s).map fun p => byteLength p.1 := by
  induction s generalizing depth with
  | nil => rfl
  | cons c r ih =>
    rw [closingOffset?, splitAtClosing]
    split_ifs
    · rfl
    · rw [ih, Option.map_map, Option.map_map]
      rfl

/-- Reads the arguments of a call and the parenthesis behind them, from the number of bytes in front
of them. The answer is missing if a slice is; otherwise it says whether there is a call. -/
def readArguments (channel start : Nat) (s : List Char) : Option (Option SlicedCall) :=
  (sliceFrom? start s).bind fun u =>
    match closingOffset? 0 u with
    | none => some none
    | some close => (slice? start (start + close) s).map fun args =>
        some ⟨channel, trim args, start + close + 1⟩

/-- Reading arguments behind a prefix finds what splitting finds, with the bytes of the prefix added
to those of the call. -/
theorem readArguments_append (channel : Nat) (x u : List Char) :
    readArguments channel (byteLength x) (x ++ u) = some ((splitAtClosing 0 u).map fun p =>
      ⟨channel, trim p.1, byteLength (x ++ u) - byteLength p.2⟩) := by
  rw [readArguments, sliceFrom?_append, Option.bind_some, closingOffset?_eq]
  cases hsplit : splitAtClosing 0 u with
  | none => rfl
  | some p =>
    have hu : u = p.1 ++ ')' :: p.2 := splitAtClosing_eq hsplit
    have consumed : byteLength (x ++ u) - byteLength p.2 = byteLength x + byteLength p.1 + 1 := by
      have one : byteLength (')' :: p.2) = 1 + byteLength p.2 := byteLength_cons ..
      rw [hu, byteLength_append, byteLength_append, one]
      omega
    simp only [Option.map_some, consumed]
    rw [hu, slice?_append]
    rfl

/-- Reads a call whose opening has just been passed. -/
def readSlices (s : List Char) : Option (Option SlicedCall) :=
  let t := trimStart s
  let digits := digitBytes t
  if digits = 0 then some none
  else (sliceTo? digits t).bind fun channel =>
    if maxChannels ≤ decimalValue channel then some none
    else (sliceFrom? digits t).bind fun behind =>
      let gap := byteLength behind - byteLength (trimStart behind)
      (sliceFrom? gap behind).bind fun rest =>
        if rest.head? ≠ some ',' then some none
        else readArguments (decimalValue channel) (byteLength s - byteLength t + digits + gap + 1) s

/-- **Reading by bytes** misses no slice and reads what is read by characters. -/
theorem readSlices_eq (s : List Char) :
    readSlices s = some ((TextureCall.afterOpening? s).map fun k =>
      ⟨k.channel, k.args, byteLength s - byteLength k.rest⟩) := by
  -- the parts of the text, and how many bytes they have
  obtain ⟨t, ht⟩ : ∃ t, trimStart s = t := ⟨_, rfl⟩
  obtain ⟨digits, hdigits⟩ : ∃ x, t.takeWhile Char.isDigit = x := ⟨_, rfl⟩
  obtain ⟨behind, hbehind⟩ : ∃ x, t.dropWhile Char.isDigit = x := ⟨_, rfl⟩
  obtain ⟨rest, hrest⟩ : ∃ x, trimStart behind = x := ⟨_, rfl⟩
  obtain ⟨lead, hs⟩ : ∃ x, s = x ++ t := ⟨_, by rw [← ht, takeWhile_append_trimStart]⟩
  obtain ⟨gap, hb⟩ : ∃ x, behind = x ++ rest := ⟨_, by rw [← hrest, takeWhile_append_trimStart]⟩
  have hparts : t = digits ++ behind := by
    rw [← hdigits, ← hbehind, List.takeWhile_append_dropWhile]
  have bytesLead : byteLength s - byteLength t = byteLength lead := by
    rw [hs, byteLength_append, Nat.add_sub_cancel_right]
  have bytesGap : byteLength behind - byteLength rest = byteLength gap := by
    rw [hb, byteLength_append, Nat.add_sub_cancel_right]
  rw [readSlices, TextureCall.afterOpening?]
  simp only [digitBytes_eq, ht, hdigits, hbehind, bytesLead]
  cases digits with
  | nil => rfl
  | cons d digits =>
    have bytes : byteLength (d :: digits) ≠ 0 := by
      rw [byteLength_cons]
      exact (Nat.add_pos_left d.utf8Size_pos _).ne'
    rw [if_neg bytes, hparts, sliceTo?_append, Option.bind_some]
    simp only [List.isEmpty_cons, Bool.false_eq_true, if_false]
    split_ifs with hbound
    · rfl
    rw [sliceFrom?_append, Option.bind_some, hrest, bytesGap, hb, sliceFrom?_append,
      Option.bind_some]
    cases rest with
    | nil => rfl
    | cons e u =>
      by_cases comma : e = ','
      · subst comma
        have start : byteLength lead + byteLength (d :: digits) + byteLength gap + 1 =
            byteLength (lead ++ (d :: digits) ++ gap ++ [',']) := by
          simp only [byteLength_append]
          rfl
        have whole : s = (lead ++ (d :: digits) ++ gap ++ [',']) ++ u := by
          rw [hs, hparts, hb]
          simp only [List.append_assoc, List.cons_append, List.nil_append]
        rw [start, whole, readArguments_append]
        simp only [List.head?_cons, ne_eq, not_true_eq_false, if_false, Option.map_map]
        rfl
      · rw [if_pos (by simpa using comma)]
        split
        · rename_i v hv
          exact absurd (List.cons.inj hv).1 comma
        · rfl

/-- Arguments are shorter than what they were read from. -/
theorem length_readSlices {k : SlicedCall} (h : readSlices s = some (some k)) :
    k.args.length ≤ s.length := by
  rw [readSlices_eq] at h
  obtain ⟨q, hq, rfl⟩ := Option.map_eq_some_iff.mp (Option.some.inj h)
  exact (Nat.le_add_right _ _).trans (TextureCall.length_afterOpening hq).le

/-! ## Binding -/

variable {format : SampleFormat} {e : List Char}

/-- Reads a call behind a number of bytes, where a word can start. -/
def callAt (e : List Char) (i : Nat) : Option (Option SlicedCall) :=
  (sliceFrom? i e).bind fun rest => (sliceTo? i e).bind fun before =>
    if before.getLast?.all (!isWordChar ·) && TextureCall.opening.isPrefixOf rest then
      (sliceFrom? (byteLength TextureCall.opening) rest).bind readSlices
    else some none

/-- So a call within arguments is about a shorter text, and binding them ends. -/
theorem length_callAt {k : SlicedCall} (h : callAt e i = some (some k)) :
    k.args.length < e.length := by
  obtain ⟨rest, hrest, h⟩ := Option.bind_eq_some_iff.mp h
  obtain ⟨before, -, h⟩ := Option.bind_eq_some_iff.mp h
  split_ifs at h
  · obtain ⟨s, hs, h⟩ := Option.bind_eq_some_iff.mp h
    have shorter := length_sliceFrom?_lt hs TextureCall.byteLength_opening_pos
    exact (length_readSlices h).trans_lt (shorter.trans_le (length_sliceFrom? hrest))
  · cases h

/-- Binds the calls of a text from a number of bytes on. The answer is missing if a slice is. -/
def bindAt (format : SampleFormat) (e : List Char) (i : Nat) : Option (List Char) :=
  if i < byteLength e then
    match h : callAt e i with
    | none => none
    | some (some k) =>
      have := length_callAt h
      (bindAt format k.args 0).bind fun args =>
        (bindAt format e (i + (byteLength TextureCall.opening + k.consumed))).map
          (format k.channel args ++ ·)
    | some none =>
      (sliceFrom? i e).bind fun rest =>
        match rest with
        | [] => some []
        | c :: _ => (bindAt format e (i + c.utf8Size)).map (c :: ·)
  else some []
termination_by (e.length, byteLength e - i)
decreasing_by
  · exact .left _ _ this
  · have := TextureCall.byteLength_opening_pos
    exact .right _ (by omega)
  · have := c.utf8Size_pos
    exact .right _ (by omega)

/-- Whether a call may start is told by the character before, as it is when reading by
characters. -/
theorem all_getLast?_eq (s : List Char) :
    s.getLast?.all (!isWordChar ·) = mayStartBehind true s := by
  cases s using List.reverseRecOn with
  | nil => rfl
  | append_singleton s c => rw [List.getLast?_concat, mayStartBehind_concat, Option.all_some]

/-- **Calls by bytes** are those by characters. -/
theorem callAt_append (x y : List Char) : callAt (x ++ y) (byteLength x) =
    some ((if mayStartBehind true x then TextureCall.atStart? y else none).map fun k =>
      ⟨k.channel, k.args, byteLength y - byteLength TextureCall.opening - byteLength k.rest⟩) := by
  rw [callAt, sliceFrom?_append, Option.bind_some, sliceTo?_append,
    Option.bind_some, all_getLast?_eq, TextureCall.atStart?]
  cases mayStartBehind true x with
  | false => rfl
  | true =>
    cases opening : TextureCall.opening.isPrefixOf y with
    | false => rfl
    | true =>
      obtain ⟨s, rfl⟩ := List.isPrefixOf_iff_prefix.mp opening
      simp only [Bool.and_self, if_true, sliceFrom?_append, Option.bind_some,
        List.drop_left, readSlices_eq, byteLength_append, Nat.add_sub_cancel_left]

/-- One step of the reader, at a call: the arguments are bound, and it goes on behind the call. -/
theorem bindAt_call {q : SlicedCall} {args rest : List Char} (h : callAt e i = some (some q))
    (hargs : bindAt format q.args 0 = some args)
    (hrest : bindAt format e (i + (byteLength TextureCall.opening + q.consumed)) = some rest)
    (hi : i < byteLength e) : bindAt format e i = some (format q.channel args ++ rest) := by
  rw [bindAt, if_pos hi]
  split
  · rename_i none
    rw [none] at h
    cases h
  · rename_i k some
    rw [some] at h
    cases h
    rw [hargs, Option.bind_some, hrest, Option.map_some]
  · rename_i none
    rw [none] at h
    cases h

/-- One step of the reader where no call begins: a whole character is copied, however many bytes it
has. -/
theorem bindAt_copy (h : callAt e i = some none) (hc : sliceFrom? i e = some (c :: r))
    (hrest : bindAt format e (i + c.utf8Size) = some t) (hi : i < byteLength e) :
    bindAt format e i = some (c :: t) := by
  rw [bindAt, if_pos hi]
  split
  · rename_i none
    rw [none] at h
    cases h
  · rename_i k some
    rw [some] at h
    cases h
  · rw [hc, Option.bind_some]
    simp only [hrest, Option.map_some]

/-- From the end of any start of a text on, **binding by bytes** misses no slice and writes what is
written by characters. -/
theorem bindAt_append (format : SampleFormat) (x y : List Char) :
    bindAt format (x ++ y) (byteLength x) = some
    (bindTexturesFrom format (mayStartBehind true x) y) := by
  -- along the recursion by characters; what it knows of the text before is only how it ends
  generalize hb : mayStartBehind true x = b
  induction b, y using bindTexturesFrom_induction generalizing x with
  | nil b => rw [bindAt, if_neg (by simp), bindTexturesFrom_nil]
  | call s k hk ihargs ihrest =>
    have call := callAt_append x s
    rw [hb, if_pos rfl, hk] at call
    obtain ⟨w, hw, hs, -, -⟩ := TextureCall.atStart?_eq_some_iff.mp hk
    have rest := ihrest (x ++ w.text) (mayStartBehind_text true x w)
    rw [List.append_assoc, ← hs] at rest
    have positive := TextureCall.byteLength_opening_pos
    have opening : byteLength TextureCall.opening ≤ byteLength w.text := by
      rw [WrittenCall.text, WrittenCall.head, List.append_assoc, byteLength_append]
      exact Nat.le_add_right _ _
    have bytes : byteLength s = byteLength w.text + byteLength k.rest := by
      rw [hs, byteLength_append]
    -- the next place of the reader, summed up from the bytes of the call, is the end of its text
    have place : byteLength (x ++ w.text) = byteLength x + (byteLength TextureCall.opening +
        (byteLength s - byteLength TextureCall.opening - byteLength k.rest)) := by
      rw [byteLength_append]
      omega
    rw [place] at rest
    rw [bindTexturesFrom_call hk]
    exact bindAt_call call (ihargs [] rfl) rest (by rw [byteLength_append]; omega)
  | cons b c r start ih =>
    -- no call starts here, so one character is copied
    have call := callAt_append x (c :: r)
    have none : (if b = true then TextureCall.atStart? (c :: r) else none) = none := by
      split_ifs with hstart
      · exact start hstart
      · rfl
    rw [hb, none] at call
    have rest := ih (x ++ [c]) (mayStartBehind_concat true x c)
    rw [List.append_assoc, byteLength_append] at rest
    have positive := c.utf8Size_pos
    rw [bindTexturesFrom_cons start]
    exact bindAt_copy call (sliceFrom?_append x (c :: r)) rest
      (by rw [byteLength_append, byteLength_cons]; omega)

/-- **Binding by bytes.** -/
theorem bindAt_zero (format : SampleFormat) (e : List Char) :
    bindAt format e 0 = some (bindTexturesFrom format true e) :=
  bindAt_append format [] e

end LitTiles
