import Mockdr.Lib.Assoc

/-!
# Query strings

Percent-encoding and the query strings made with it, as `urllib.parse` has them.

* `decodeUtf8`: UTF-8 with `errors="replace"`; `decodeUtf8_encodeUtf8`: what was encoded is read
  back.
* `quotePlus` and `unquotePlus`; `unquotePlus_quotePlus`: what was quoted is read back.
* `parseQs` reads the parameters of a query string, blank ones among them, `urlencode` writes them;
  `parseQs_urlencode`: what was written is read back.
* `parseQsl` and `urlencodePairs` keep the order of the names and values;
  `parseQsl_urlencodePairs`: what was written is read back.
-/

namespace Mockdr

namespace QueryString

/-! ## UTF-8 -/

/-- `s.encode("utf-8")` -/
def encodeUtf8 (s : List Char) : List UInt8 := s.flatMap String.utf8EncodeChar

/-- The character at the front of some bytes. -/
def charAt (bytes : List UInt8) : Option Char := bytes.toByteArray.utf8DecodeChar? 0

/-- Whether a byte continues a sequence. -/
def continues (b : UInt8) : Bool := 0x80 ≤ b && b < 0xc0

/-- Whether a byte may follow the first byte of a sequence. -/
def follows (first second : UInt8) : Bool :=
  if first = 0xe0 then 0xa0 ≤ second && second < 0xc0
  else if first = 0xed then 0x80 ≤ second && second < 0xa0
  else if first = 0xf0 then 0x90 ≤ second && second < 0xc0
  else if first = 0xf4 then 0x80 ≤ second && second < 0x90
  else continues second

/-- How many of the bytes at the front, which are no character, one replacement character stands
    for: the beginning of a sequence as far as it goes. -/
def replaced : List UInt8 → Nat
  | first :: second :: third :: _ =>
    if 0xe0 ≤ first && first < 0xf5 && follows first second then
      if 0xf0 ≤ first && continues third then 3 else 2
    else 1
  | [first, second] => if 0xe0 ≤ first && first < 0xf5 && follows first second then 2 else 1
  | _ => 1

/-- Decode what is behind so many bytes, which have been read. -/
def decodeBehind : Nat → List UInt8 → List Char
  | _, [] => []
  | skip + 1, _ :: bytes => decodeBehind skip bytes
  | 0, b :: bytes =>
    match charAt (b :: bytes) with
    | some c => c :: decodeBehind (c.utf8Size - 1) bytes
    | none => '\uFFFD' :: decodeBehind (replaced (b :: bytes) - 1) bytes

/-- `bytes.decode("utf-8", errors="replace")` -/
def decodeUtf8 (bytes : List UInt8) : List Char := decodeBehind 0 bytes

lemma decodeBehind_append (l bytes : List UInt8) :
    decodeBehind l.length (l ++ bytes) = decodeBehind 0 bytes := by
  induction l with
  | nil => rfl
  | cons b l ih => exact ih

lemma charAt_encoded (c : Char) (bytes : List UInt8) :
    charAt (String.utf8EncodeChar c ++ bytes) = some c := by
  rw [charAt, List.toByteArray_append]
  exact ByteArray.utf8DecodeChar?_utf8EncodeChar_append

lemma decodeUtf8_append (s : List Char) (bytes : List UInt8) :
    decodeUtf8 (encodeUtf8 s ++ bytes) = s ++ decodeUtf8 bytes := by
  induction s with
  | nil => rfl
  | cons c s ih =>
    obtain ⟨b, l, hl⟩ := List.exists_cons_of_ne_nil (String.utf8EncodeChar_ne_nil (c := c))
    have hlength : c.utf8Size - 1 = l.length := by
      have hlength := String.length_utf8EncodeChar c
      rw [hl, List.length_cons] at hlength
      omega
    have hchar := charAt_encoded c (encodeUtf8 s ++ bytes)
    rw [hl] at hchar
    rw [encodeUtf8, List.flatMap_cons, List.append_assoc, ← encodeUtf8, hl, decodeUtf8,
      List.cons_append, decodeBehind]
    rw [List.cons_append] at hchar
    rw [hchar]
    simp only
    rw [hlength, decodeBehind_append]
    exact congrArg (c :: ·) ih

@[simp] lemma decodeUtf8_encodeUtf8 (s : List Char) : decodeUtf8 (encodeUtf8 s) = s := by
  have h := decodeUtf8_append s []
  rw [List.append_nil] at h
  rw [h]
  exact List.append_nil s

/-! ## Percent-encoding -/

/-- The digit of a number below 16. -/
def hexChar (n : Nat) : Char := "0123456789ABCDEF".toList.getD n '0'

/-- The value of a hexadecimal digit. -/
def hexValue (c : Char) : Option Nat :=
  if '0' ≤ c && c ≤ '9' then some (c.toNat - 48)
  else if 'a' ≤ c && c ≤ 'f' then some (c.toNat - 87)
  else if 'A' ≤ c && c ≤ 'F' then some (c.toNat - 55)
  else none

/-- Whether a byte stands for itself. -/
def safe (b : UInt8) : Bool :=
  (0x30 ≤ b && b ≤ 0x39) || (0x41 ≤ b && b ≤ 0x5a) || (0x61 ≤ b && b ≤ 0x7a)
    || b = 0x5f || b = 0x2e || b = 0x2d || b = 0x7e

/-- What a byte is quoted as. -/
def quoteByte (b : UInt8) : List Char :=
  if b = 0x20 then ['+']
  else if safe b then [Char.ofNat b.toNat]
  else ['%', hexChar (b.toNat / 16), hexChar (b.toNat % 16)]

/-- `quote_plus(s)` -/
def quotePlus (s : List Char) : List Char := (encodeUtf8 s).flatMap quoteByte

/-- `unquote_to_bytes(s)`, of ASCII text. -/
def unquoteToBytes : List Char → List UInt8
  | '%' :: a :: b :: rest =>
    match hexValue a, hexValue b with
    | some m, some n => UInt8.ofNat (16 * m + n) :: unquoteToBytes rest
    | _, _ => UInt8.ofNat '%'.toNat :: unquoteToBytes (a :: b :: rest)
  | c :: rest => UInt8.ofNat c.toNat :: unquoteToBytes rest
  | [] => []

/-- Unquote the rest of a text: what stands between two characters that are not ASCII is decoded as
    one, `run` being the part of it that has been read. -/
def unquoteFrom (run : List Char) : List Char → List Char
  | [] => decodeUtf8 (unquoteToBytes run)
  | c :: cs =>
    if c.toNat < 128 then unquoteFrom (run ++ [c]) cs
    else decodeUtf8 (unquoteToBytes run) ++ c :: unquoteFrom [] cs

/-- `unquote(s.replace("+", " "))` -/
def unquotePlus (s : List Char) : List Char :=
  unquoteFrom [] (s.map fun c => if c = '+' then ' ' else c)

lemma unquoteFrom_ascii {s : List Char} (h : ∀ c ∈ s, c.toNat < 128) (run : List Char) :
    unquoteFrom run s = decodeUtf8 (unquoteToBytes (run ++ s)) := by
  induction s generalizing run with
  | nil => rw [unquoteFrom, List.append_nil]
  | cons c s ih =>
    obtain ⟨hc, hs⟩ := List.forall_mem_cons.1 h
    rw [unquoteFrom, if_pos hc, ih hs, List.append_assoc, List.singleton_append]

lemma unquoteToBytes_cons {c : Char} (hc : c ≠ '%') (rest : List Char) :
    unquoteToBytes (c :: rest) = UInt8.ofNat c.toNat :: unquoteToBytes rest := by
  rw [unquoteToBytes]
  rintro a b l rfl
  exact absurd rfl hc

lemma hexValue_hexChar : ∀ n < 16, hexValue (hexChar n) = some n := by decide

lemma quoteByte_plain {n : Nat} (hn : n < 256) {c : Char} (hc : c ∈ quoteByte (UInt8.ofNat n)) :
    c.toNat < 128 ∧ c ≠ '&' ∧ c ≠ '=' := by
  have hall : ∀ n < 256, ((quoteByte (UInt8.ofNat n)).all fun c =>
      c.toNat < 128 && c != '&' && c != '=') = true := by decide +kernel
  have hplain := List.all_eq_true.1 (hall n hn) c hc
  simp only [Bool.and_eq_true, decide_eq_true_eq, bne_iff_ne, and_assoc] at hplain
  exact hplain

/-- A byte that was quoted is read back. -/
lemma unquoteToBytes_quoteByte (b : UInt8) (rest : List Char) :
    unquoteToBytes ((quoteByte b).map (fun c => if c = '+' then ' ' else c) ++ rest)
      = b :: unquoteToBytes rest := by
  have hb := UInt8.toNat_lt b
  unfold quoteByte
  split
  · next hspace =>
    subst hspace
    exact unquoteToBytes_cons (by decide) rest
  · split
    · next hsafe =>
      have hchar : ∀ n < 256, safe (UInt8.ofNat n) = true →
          Char.ofNat n ≠ '+' ∧ Char.ofNat n ≠ '%' ∧ (Char.ofNat n).toNat = n := by decide +kernel
      obtain ⟨hplus, hpercent, hvalue⟩ := hchar b.toNat hb (by rw [UInt8.ofNat_toNat]; exact hsafe)
      rw [List.map_singleton, if_neg hplus, List.singleton_append, unquoteToBytes_cons hpercent,
        hvalue, UInt8.ofNat_toNat]
    · have hplus : ∀ n < 16, hexChar n ≠ '+' := by decide
      have hhigh : b.toNat / 16 < 16 := by omega
      have hlow : b.toNat % 16 < 16 := by omega
      simp only [List.map_cons, List.map_nil, if_neg (hplus _ hhigh), if_neg (hplus _ hlow),
        List.cons_append, List.nil_append]
      rw [if_neg (by decide), unquoteToBytes, hexValue_hexChar _ hhigh, hexValue_hexChar _ hlow]
      simp only
      rw [Nat.div_add_mod, UInt8.ofNat_toNat]

lemma quotePlus_plain {s : List Char} {c : Char} (h : c ∈ quotePlus s) :
    c.toNat < 128 ∧ c ≠ '&' ∧ c ≠ '=' := by
  obtain ⟨b, -, hc⟩ := List.mem_flatMap.1 h
  refine quoteByte_plain (UInt8.toNat_lt b) ?_
  rw [UInt8.ofNat_toNat]
  exact hc

/-- Text that was quoted is read back. -/
@[simp] lemma unquotePlus_quotePlus (s : List Char) : unquotePlus (quotePlus s) = s := by
  have hbytes : ∀ bytes : List UInt8,
      unquoteToBytes ((bytes.flatMap quoteByte).map fun c => if c = '+' then ' ' else c)
        = bytes := by
    intro bytes
    induction bytes with
    | nil => rfl
    | cons b bytes ih =>
      rw [List.flatMap_cons, List.map_append, unquoteToBytes_quoteByte, ih]
  rw [unquotePlus, unquoteFrom_ascii, List.nil_append, quotePlus, hbytes, decodeUtf8_encodeUtf8]
  intro c hc
  obtain ⟨d, hd, rfl⟩ := List.mem_map.1 hc
  split
  · decide
  · exact (quotePlus_plain hd).1

/-! ## Parameters -/

/-- The parameters of a request, each with the values it is sent with. -/
abbrev Params := Dict (List Char) (List (List Char))

/-- One more value of a parameter. -/
def addValue (params : Params) (p : List Char × List Char) : Params :=
  params.set p.1 ((params.get p.1).getD [] ++ [p.2])

/-- A name and a value, of what stands between two `&`. -/
def parsePair (piece : List Char) : List Char × List Char :=
  (unquotePlus (piece.takeWhile (· ≠ '=')), unquotePlus ((piece.dropWhile (· ≠ '=')).drop 1))

/-- `parse_qs(s, keep_blank_values=True)` -/
def parseQs (s : List Char) : Params :=
  (((s.splitOn '&').filter (· ≠ [])).map parsePair).foldl addValue .empty

/-- A name and a value as they are written. -/
def writePair (p : List Char × List Char) : List Char := quotePlus p.1 ++ '=' :: quotePlus p.2

/-- The names and values of some parameters, one after the other. -/
def pairs (params : Params) : List (List Char × List Char) :=
  params.entries.flatMap fun entry => entry.2.map (entry.1, ·)

/-- `urlencode(params, doseq=True)` -/
def urlencode (params : Params) : List Char := ['&'].intercalate ((pairs params).map writePair)

lemma parsePair_writePair (p : List Char × List Char) : parsePair (writePair p) = p := by
  have hname : ∀ c ∈ quotePlus p.1, decide (c ≠ '=') = true := fun c hc =>
    decide_eq_true (quotePlus_plain hc).2.2
  rw [parsePair, writePair, List.takeWhile_append_of_pos hname, List.dropWhile_append_of_pos hname,
    List.takeWhile_cons_of_neg (by decide), List.dropWhile_cons_of_neg (by decide),
    List.append_nil, List.drop_one, List.tail_cons, unquotePlus_quotePlus, unquotePlus_quotePlus]

lemma foldl_addValue_values {params : Params} {name : List Char} {old values : List (List Char)}
    (h : params.get name = some old) :
    (values.map (name, ·)).foldl addValue params = params.set name (old ++ values) := by
  induction values generalizing params old with
  | nil =>
    rw [List.append_nil, Dict.set_of_get h]
    rfl
  | cons v values ih =>
    rw [List.map_cons, List.foldl_cons, addValue, h, Option.getD_some, ih (Dict.get_set_self _ _ _),
      Dict.set_set, List.append_assoc, List.singleton_append]

lemma foldl_addValue_entry {params : Params} {name : List Char} {values : List (List Char)}
    (hnew : params.get name = none) (hvalues : values ≠ []) :
    (values.map (name, ·)).foldl addValue params = params.set name values := by
  obtain ⟨v, rest, rfl⟩ := List.exists_cons_of_ne_nil hvalues
  rw [List.map_cons, List.foldl_cons, addValue, hnew, Option.getD_none, List.nil_append,
    foldl_addValue_values (Dict.get_set_self _ _ _), Dict.set_set, List.singleton_append]

/-- Parameters, each with a value at least, are read back from their names and values. -/
lemma foldl_addValue_pairs (params : Params) (h : ∀ entry ∈ params.entries, entry.2 ≠ []) :
    (pairs params).foldl addValue .empty = params := by
  have hread : ∀ (l : List (List Char × List (List Char))) (d : Params),
      (∀ entry ∈ l, entry.2 ≠ []) → ((d.entries ++ l).map Prod.fst).Nodup →
      (l.flatMap fun entry => entry.2.map (entry.1, ·)).foldl addValue d
        = l.foldl (fun d p => d.set p.1 p.2) d := by
    intro l
    induction l with
    | nil => exact fun _ _ _ => rfl
    | cons entry l ih =>
      intro d hl hnodup
      obtain ⟨hentry, hrest⟩ := List.forall_mem_cons.1 hl
      have hnew : d.get entry.1 = none := by
        rw [Dict.get_eq_none_iff]
        intro hmem
        rw [List.map_append, List.map_cons] at hnodup
        exact (List.nodup_append.1 hnodup).2.2 _ hmem _ List.mem_cons_self rfl
      rw [List.flatMap_cons, List.foldl_append, foldl_addValue_entry hnew hentry, List.foldl_cons]
      refine ih _ hrest ?_
      rw [Dict.entries_set_of_none _ hnew, List.append_assoc]
      exact hnodup
  apply Dict.ext
  rw [pairs, hread params.entries .empty h params.nodup, Dict.entries_foldl_set params.nodup]
  rfl

/-- What was written piece by piece, each piece a pair without the mark between them, is read. -/
lemma map_parsePair_intercalate {write : List Char × List Char → List Char}
    (hmark : ∀ p, '&' ∉ write p) (hfull : ∀ p, write p ≠ []) (hread : ∀ p, parsePair (write p) = p)
    (params : List (List Char × List Char)) :
    (((['&'].intercalate (params.map write)).splitOn '&').filter (· ≠ [])).map parsePair
      = params := by
  have hpieces : ((['&'].intercalate (params.map write)).splitOn '&').filter (· ≠ [])
      = params.map write := by
    cases params with
    | nil => rfl
    | cons p params =>
      have hmarks : ∀ piece ∈ (p :: params).map write, '&' ∉ piece := by
        intro piece hpiece
        obtain ⟨q, -, rfl⟩ := List.mem_map.1 hpiece
        exact hmark q
      have hall : ∀ piece ∈ (p :: params).map write, decide (piece ≠ []) = true := by
        intro piece hpiece
        obtain ⟨q, -, rfl⟩ := List.mem_map.1 hpiece
        exact decide_eq_true (hfull q)
      rw [List.splitOn_intercalate _ hmarks (List.cons_ne_nil _ _), List.filter_eq_self.2 hall]
  rw [hpieces, List.map_map]
  exact List.map_id'' hread _

/-- Parameters that were written are read back. -/
theorem parseQs_urlencode (params : Params) (h : ∀ entry ∈ params.entries, entry.2 ≠ []) :
    parseQs (urlencode params) = params := by
  have hmark : ∀ p, '&' ∉ writePair p := by
    intro p hmark
    rw [writePair, List.mem_append, List.mem_cons] at hmark
    rcases hmark with hmark | hmark | hmark
    · exact (quotePlus_plain hmark).2.1 rfl
    · exact absurd hmark (by decide)
    · exact (quotePlus_plain hmark).2.1 rfl
  have hfull : ∀ p, writePair p ≠ [] :=
    fun p => List.append_ne_nil_of_right_ne_nil _ (List.cons_ne_nil _ _)
  rw [parseQs, urlencode, map_parsePair_intercalate hmark hfull parsePair_writePair,
    foldl_addValue_pairs params h]

lemma ne_nil_of_parseQs {s : List Char} {entry : List Char × List (List Char)}
    (h : entry ∈ (parseQs s).entries) : entry.2 ≠ [] := by
  have hadd : ∀ (l : List (List Char × List Char)) (params : Params),
      (∀ entry ∈ params.entries, entry.2 ≠ []) →
      ∀ entry ∈ (l.foldl addValue params).entries, entry.2 ≠ [] := by
    intro l
    induction l with
    | nil => exact fun _ h => h
    | cons p l ih =>
      intro params hparams
      refine ih _ fun entry hentry => ?_
      rcases Assoc.mem_set hentry with rfl | hentry
      · exact List.append_ne_nil_of_right_ne_nil _ (List.cons_ne_nil _ _)
      · exact hparams entry hentry
  exact hadd _ .empty (fun _ h => absurd h List.not_mem_nil) entry h

/-! ## Names and values in order -/

/-- `parse_qsl(s, keep_blank_values=True)` -/
def parseQsl (s : List Char) : List (List Char × List Char) :=
  ((s.splitOn '&').filter (· ≠ [])).map parsePair

/-- What a byte is quoted as, where some more characters stand for themselves. -/
def quoteByteExcept (kept : List Char) (b : UInt8) : List Char :=
  if Char.ofNat b.toNat ∈ kept then [Char.ofNat b.toNat] else quoteByte b

/-- `quote_plus(s, safe=kept)` -/
def quotePlusExcept (kept s : List Char) : List Char :=
  (encodeUtf8 s).flatMap (quoteByteExcept kept)

/-- A name and a value as they are written, where some more characters stand for themselves. -/
def writePairExcept (kept : List Char) (p : List Char × List Char) : List Char :=
  quotePlusExcept kept p.1 ++ '=' :: quotePlusExcept kept p.2

/-- `urlencode(params, safe=kept)` -/
def urlencodePairs (kept : List Char) (params : List (List Char × List Char)) : List Char :=
  ['&'].intercalate (params.map (writePairExcept kept))

/-- Characters that may stand for themselves: ASCII ones, and no marks. -/
def Plain (kept : List Char) : Prop :=
  ∀ c ∈ kept, c.toNat < 128 ∧ c ≠ '&' ∧ c ≠ '=' ∧ c ≠ '+' ∧ c ≠ '%'

section

variable {kept : List Char}

lemma quotePlusExcept_plain (hkept : Plain kept) {s : List Char} {c : Char}
    (h : c ∈ quotePlusExcept kept s) : c.toNat < 128 ∧ c ≠ '&' ∧ c ≠ '=' := by
  obtain ⟨b, -, hc⟩ := List.mem_flatMap.1 h
  unfold quoteByteExcept at hc
  split_ifs at hc with hmem
  · obtain rfl := List.mem_singleton.1 hc
    obtain ⟨hascii, hamp, heq, -⟩ := hkept _ hmem
    exact ⟨hascii, hamp, heq⟩
  · refine quoteByte_plain (UInt8.toNat_lt b) ?_
    rw [UInt8.ofNat_toNat]
    exact hc

lemma unquoteToBytes_quoteByteExcept (hkept : Plain kept) (b : UInt8) (rest : List Char) :
    unquoteToBytes ((quoteByteExcept kept b).map (fun c => if c = '+' then ' ' else c) ++ rest)
      = b :: unquoteToBytes rest := by
  unfold quoteByteExcept
  split_ifs with hmem
  · have hvalue : ∀ n < 256, (Char.ofNat n).toNat = n := by decide +kernel
    obtain ⟨-, -, -, hplus, hpercent⟩ := hkept _ hmem
    rw [List.map_singleton, if_neg hplus, List.singleton_append, unquoteToBytes_cons hpercent,
      hvalue _ (UInt8.toNat_lt b), UInt8.ofNat_toNat]
  · exact unquoteToBytes_quoteByte b rest

lemma unquotePlus_quotePlusExcept (hkept : Plain kept) (s : List Char) :
    unquotePlus (quotePlusExcept kept s) = s := by
  have hbytes : ∀ bytes : List UInt8,
      unquoteToBytes ((bytes.flatMap (quoteByteExcept kept)).map
        fun c => if c = '+' then ' ' else c) = bytes := by
    intro bytes
    induction bytes with
    | nil => rfl
    | cons b bytes ih =>
      rw [List.flatMap_cons, List.map_append, unquoteToBytes_quoteByteExcept hkept, ih]
  rw [unquotePlus, unquoteFrom_ascii, List.nil_append, quotePlusExcept, hbytes,
    decodeUtf8_encodeUtf8]
  intro c hc
  obtain ⟨d, hd, rfl⟩ := List.mem_map.1 hc
  split
  · decide
  · exact (quotePlusExcept_plain hkept hd).1

/-- Names and values that were written are read back, in their order, repeated and blank ones
    included. -/
theorem parseQsl_urlencodePairs (hkept : Plain kept)
    (params : List (List Char × List Char)) :
    parseQsl (urlencodePairs kept params) = params := by
  refine map_parsePair_intercalate ?_ ?_ ?_ params
  · intro p hmark
    rw [writePairExcept, List.mem_append, List.mem_cons] at hmark
    rcases hmark with hmark | hmark | hmark
    · exact (quotePlusExcept_plain hkept hmark).2.1 rfl
    · exact absurd hmark (by decide)
    · exact (quotePlusExcept_plain hkept hmark).2.1 rfl
  · exact fun p => List.append_ne_nil_of_right_ne_nil _ (List.cons_ne_nil _ _)
  · intro p
    have hname : ∀ c ∈ quotePlusExcept kept p.1, decide (c ≠ '=') = true := fun c hc =>
      decide_eq_true (quotePlusExcept_plain hkept hc).2.2
    rw [parsePair, writePairExcept, List.takeWhile_append_of_pos hname,
      List.dropWhile_append_of_pos hname, List.takeWhile_cons_of_neg (by decide),
      List.dropWhile_cons_of_neg (by decide), List.append_nil, List.drop_one, List.tail_cons,
      unquotePlus_quotePlusExcept hkept, unquotePlus_quotePlusExcept hkept]

end

end QueryString

end Mockdr
