import Mathlib.Data.List.Basic
import Mathlib.Data.List.DropRight
import Mathlib.Data.List.Nodup
import Mathlib.Tactic.Lemma

/-!
# Base64

* `encode`: three bytes to four characters, the last group padded with `=`.
* `decode`: a reader that skips what is outside of the alphabet, as `binascii` does unless it is
  told to be strict.
* `decode_encode`: what was encoded is read back.
* `urlsafeEncode` and `urlsafeDecode` have the alphabet of URLs; `stripPad` takes the padding off,
  `pad` puts it back.
* `canonical_iff`: what an encoding is without its padding, `Canonical` texts.
-/

namespace Mockdr

namespace Base64

/-- The alphabet. -/
def alphabet : List Char :=
  "ABCDEFGHIJKLMNOPQRSTUVWXYZabcdefghijklmnopqrstuvwxyz0123456789+/".toList

/-- The character of a group of six bits. -/
def char (n : Nat) : Char := alphabet.getD n '='

/-- The six bits of a character. -/
def digit (c : Char) : Option Nat := alphabet.idxOf? c

/-- Encode bytes. -/
def encode : List UInt8 → List Char
  | [] => []
  | [a] => [char (a.toNat / 4), char (a.toNat % 4 * 16), '=', '=']
  | [a, b] =>
    [char (a.toNat / 4), char (a.toNat % 4 * 16 + b.toNat / 16), char (b.toNat % 16 * 4), '=']
  | a :: b :: c :: rest =>
    char (a.toNat / 4) :: char (a.toNat % 4 * 16 + b.toNat / 16)
      :: char (b.toNat % 16 * 4 + c.toNat / 64) :: char (c.toNat % 64) :: encode rest

/-- Decode the rest of a text: `position` characters of a group of four have been read, `left` is
    what is left over of the last of them, and `pads` the padding since. -/
def decodeFrom (position left pads : Nat) : List Char → Option (List UInt8)
  | [] => if position = 0 then some [] else none
  | c :: cs =>
    if c = '=' then
      if 2 ≤ position then
        if 4 ≤ position + (pads + 1) then some [] else decodeFrom position left (pads + 1) cs
      else decodeFrom position left pads cs
    else
      match digit c with
      | none => decodeFrom position left pads cs
      | some d =>
        match position with
        | 0 => decodeFrom 1 d 0 cs
        | 1 => (decodeFrom 2 (d % 16) 0 cs).map (UInt8.ofNat (left * 4 + d / 16) :: ·)
        | 2 => (decodeFrom 3 (d % 4) 0 cs).map (UInt8.ofNat (left * 16 + d / 4) :: ·)
        | _ => (decodeFrom 0 0 0 cs).map (UInt8.ofNat (left * 64 + d) :: ·)

/-- Decode a text; nothing where it is refused. -/
def decode (text : List Char) : Option (List UInt8) := decodeFrom 0 0 0 text

lemma alphabet_eq : alphabet =
    ['A', 'B', 'C', 'D', 'E', 'F', 'G', 'H', 'I', 'J', 'K', 'L', 'M', 'N', 'O', 'P', 'Q', 'R', 'S',
      'T', 'U', 'V', 'W', 'X', 'Y', 'Z', 'a', 'b', 'c', 'd', 'e', 'f', 'g', 'h', 'i', 'j', 'k', 'l',
      'm', 'n', 'o', 'p', 'q', 'r', 's', 't', 'u', 'v', 'w', 'x', 'y', 'z', '0', '1', '2', '3', '4',
      '5', '6', '7', '8', '9', '+', '/'] :=
  String.toList_ofList

lemma length_alphabet : alphabet.length = 64 := by rw [alphabet_eq]; rfl

lemma nodup_alphabet : alphabet.Nodup := by
  have hcodes : alphabet.map Char.toNat
      = List.range' 65 26 ++ (List.range' 97 26 ++ (List.range' 48 10 ++ [43, 47])) := by
    rw [alphabet_eq]
    rfl
  refine List.Nodup.of_map Char.toNat ?_
  rw [hcodes, List.nodup_append, List.nodup_append, List.nodup_append]
  refine ⟨List.nodup_range', ⟨List.nodup_range', ⟨List.nodup_range', by decide, ?_⟩, ?_⟩, ?_⟩
  all_goals
    simp only [List.mem_append, List.mem_range'_1, List.mem_cons, List.not_mem_nil, or_false]
    omega

lemma char_eq_getElem {n : Nat} (h : n < 64) :
    ∃ hlt : n < alphabet.length, char n = alphabet[n] := by
  have hlt : n < alphabet.length := h.trans_eq length_alphabet.symm
  exact ⟨hlt, by rw [char, List.getD_eq_getElem?_getD, List.getElem?_eq_getElem hlt,
    Option.getD_some]⟩

lemma char_mem {n : Nat} (h : n < 64) : char n ∈ alphabet := by
  obtain ⟨hlt, hchar⟩ := char_eq_getElem h
  rw [hchar]
  exact List.getElem_mem hlt

lemma digit_char {n : Nat} (h : n < 64) : digit (char n) = some n ∧ char n ≠ '=' := by
  have hpad : '=' ∉ alphabet := by
    rw [alphabet_eq]
    decide
  obtain ⟨hlt, hchar⟩ := char_eq_getElem h
  refine ⟨?_, fun heq => hpad (heq ▸ char_mem h)⟩
  rw [hchar, digit, List.idxOf?_eq_some_iff]
  refine ⟨hlt, rfl, fun j hj heq => ?_⟩
  exact hj.ne ((nodup_alphabet.getElem_inj_iff).1 heq)

lemma decodeFrom_cons (position left pads : Nat) (c : Char) (cs : List Char) :
    decodeFrom position left pads (c :: cs)
      = if c = '=' then
          if 2 ≤ position then
            if 4 ≤ position + (pads + 1) then some [] else decodeFrom position left (pads + 1) cs
          else decodeFrom position left pads cs
        else
          match digit c with
          | none => decodeFrom position left pads cs
          | some d =>
            match position with
            | 0 => decodeFrom 1 d 0 cs
            | 1 => (decodeFrom 2 (d % 16) 0 cs).map (UInt8.ofNat (left * 4 + d / 16) :: ·)
            | 2 => (decodeFrom 3 (d % 4) 0 cs).map (UInt8.ofNat (left * 16 + d / 4) :: ·)
            | _ => (decodeFrom 0 0 0 cs).map (UInt8.ofNat (left * 64 + d) :: ·) :=
  rfl

lemma decodeFrom_char {n position left pads : Nat} {cs : List Char} (h : n < 64) :
    decodeFrom position left pads (char n :: cs)
      = match position with
        | 0 => decodeFrom 1 n 0 cs
        | 1 => (decodeFrom 2 (n % 16) 0 cs).map (UInt8.ofNat (left * 4 + n / 16) :: ·)
        | 2 => (decodeFrom 3 (n % 4) 0 cs).map (UInt8.ofNat (left * 16 + n / 4) :: ·)
        | _ => (decodeFrom 0 0 0 cs).map (UInt8.ofNat (left * 64 + n) :: ·) := by
  obtain ⟨hdigit, hne⟩ := digit_char h
  rw [decodeFrom_cons, if_neg hne, hdigit]

lemma ofNat_of_eq {n : Nat} {a : UInt8} (h : n = a.toNat) : UInt8.ofNat n = a := by
  rw [h, UInt8.ofNat_toNat]

/-- What was encoded is read back. -/
theorem decode_encode (bytes : List UInt8) : decode (encode bytes) = some bytes := by
  rw [decode]
  induction bytes using encode.induct with
  | case1 => rfl
  | case2 a =>
    have ha := a.toNat_lt
    rw [encode, decodeFrom_char (by omega)]
    simp only
    rw [decodeFrom_char (by omega)]
    simp only
    rw [ofNat_of_eq (a := a) (by omega)]
    rfl
  | case3 a b =>
    have ha := a.toNat_lt
    have hb := b.toNat_lt
    rw [encode, decodeFrom_char (by omega)]
    simp only
    rw [decodeFrom_char (by omega)]
    simp only
    rw [decodeFrom_char (by omega)]
    simp only
    rw [ofNat_of_eq (a := a) (by omega), ofNat_of_eq (a := b) (by omega)]
    rfl
  | case4 a b c rest ih =>
    have ha := a.toNat_lt
    have hb := b.toNat_lt
    have hc := c.toNat_lt
    rw [encode, decodeFrom_char (by omega)]
    simp only
    rw [decodeFrom_char (by omega)]
    simp only
    rw [decodeFrom_char (by omega)]
    simp only
    rw [decodeFrom_char (by omega)]
    simp only
    rw [ih, ofNat_of_eq (a := a) (by omega), ofNat_of_eq (a := b) (by omega),
      ofNat_of_eq (a := c) (by omega)]
    rfl

/-- The alphabet of an encoding is ASCII. -/
lemma toNat_lt_of_mem_encode {bytes : List UInt8} {c : Char} (h : c ∈ encode bytes) :
    c.toNat < 128 := by
  have hascii : ∀ n, (char n).toNat < 128 := by
    intro n
    rw [char, List.getD_eq_getElem?_getD]
    cases hchar : alphabet[n]? with
    | none => decide
    | some c =>
      have hall : (alphabet.all fun c => decide (c.toNat < 128)) = true := by
        rw [alphabet_eq]
        rfl
      exact of_decide_eq_true (List.all_eq_true.1 hall c (List.mem_of_getElem? hchar))
  induction bytes using encode.induct with
  | case1 => exact absurd h List.not_mem_nil
  | case2 a =>
    simp only [encode, List.mem_cons, List.not_mem_nil, or_false] at h
    rcases h with rfl | rfl | rfl | rfl
    · exact hascii _
    · exact hascii _
    · decide
    · decide
  | case3 a b =>
    simp only [encode, List.mem_cons, List.not_mem_nil, or_false] at h
    rcases h with rfl | rfl | rfl | rfl
    · exact hascii _
    · exact hascii _
    · exact hascii _
    · decide
  | case4 a b c rest ih =>
    simp only [encode, List.mem_cons] at h
    rcases h with rfl | rfl | rfl | rfl | h
    · exact hascii _
    · exact hascii _
    · exact hascii _
    · exact hascii _
    · exact ih h

/-! ## The alphabet of URLs, without padding -/

/-- The character that stands for one of the alphabet in a URL. -/
def toUrl (c : Char) : Char := if c = '+' then '-' else if c = '/' then '_' else c

/-- The character of the alphabet that one in a URL stands for. -/
def ofUrl (c : Char) : Char := if c = '-' then '+' else if c = '_' then '/' else c

lemma ofUrl_toUrl {c : Char} (h : c ∈ alphabet) : ofUrl (toUrl c) = c := by
  have hall : (alphabet.all fun c => decide (ofUrl (toUrl c) = c)) = true := by
    rw [alphabet_eq]
    rfl
  exact of_decide_eq_true (List.all_eq_true.1 hall c h)

/-- `urlsafe_b64encode(bytes)` -/
def urlsafeEncode (bytes : List UInt8) : List Char := (encode bytes).map toUrl

/-- `urlsafe_b64decode(text)`; nothing where it is refused. -/
def urlsafeDecode (text : List Char) : Option (List UInt8) := decode (text.map ofUrl)

/-- `text.rstrip("=")` -/
def stripPad (text : List Char) : List Char := text.rdropWhile (· = '=')

/-- `text + "=" * (-len(text) % 4)` -/
def pad (text : List Char) : List Char :=
  text ++ List.replicate ((4 - text.length % 4) % 4) '='

/-- What was encoded is characters of the alphabet, and the padding that fills the last group. -/
lemma exists_encode_eq (bytes : List UInt8) :
    ∃ body k, encode bytes = body ++ List.replicate k '=' ∧ (∀ c ∈ body, ∃ n < 64, c = char n)
      ∧ (4 - body.length % 4) % 4 = k := by
  induction bytes using encode.induct with
  | case1 => exact ⟨[], 0, rfl, fun c hc => absurd hc List.not_mem_nil, rfl⟩
  | case2 a =>
    have ha := a.toNat_lt
    refine ⟨[_, _], 2, rfl, ?_, rfl⟩
    simp only [List.forall_mem_cons, List.not_mem_nil, false_imp_iff, implies_true, and_true]
    exact ⟨⟨_, by omega, rfl⟩, _, by omega, rfl⟩
  | case3 a b =>
    have ha := a.toNat_lt
    have hb := b.toNat_lt
    refine ⟨[_, _, _], 1, rfl, ?_, rfl⟩
    simp only [List.forall_mem_cons, List.not_mem_nil, false_imp_iff, implies_true, and_true]
    exact ⟨⟨_, by omega, rfl⟩, ⟨_, by omega, rfl⟩, _, by omega, rfl⟩
  | case4 a b c rest ih =>
    have ha := a.toNat_lt
    have hb := b.toNat_lt
    have hc := c.toNat_lt
    obtain ⟨body, k, hencode, hbody, hk⟩ := ih
    refine ⟨_ :: _ :: _ :: _ :: body, k, by rw [encode, hencode]; rfl, ?_, ?_⟩
    · simp only [List.forall_mem_cons]
      exact ⟨⟨_, by omega, rfl⟩, ⟨_, by omega, rfl⟩, ⟨_, by omega, rfl⟩, ⟨_, by omega, rfl⟩, hbody⟩
    · simp only [List.length_cons]
      omega

lemma toUrl_char_ne {n : Nat} (h : n < 64) : toUrl (char n) ≠ '=' := by
  have hall : (alphabet.all fun c => decide (toUrl c ≠ '=')) = true := by
    rw [alphabet_eq]
    rfl
  exact of_decide_eq_true (List.all_eq_true.1 hall _ (char_mem h))

lemma stripPad_append {text : List Char} {k : Nat} (h : '=' ∉ text) :
    stripPad (text ++ List.replicate k '=') = text := by
  have hpads : ∀ c ∈ List.replicate k '=', decide (c = '=') = true := fun c hc =>
    decide_eq_true (List.eq_of_mem_replicate hc)
  rw [stripPad, List.rdropWhile, List.reverse_append, List.reverse_replicate,
    List.dropWhile_append_of_pos hpads]
  cases hlast : text.reverse with
  | nil => exact (List.reverse_eq_nil_iff.1 hlast).symm
  | cons c rest =>
    have hc : c ≠ '=' := by
      rintro rfl
      exact h (List.mem_reverse.1 (hlast ▸ List.mem_cons_self))
    rw [List.dropWhile_cons_of_neg (by simpa using hc), ← hlast, List.reverse_reverse]

lemma pad_stripPad_urlsafeEncode (bytes : List UInt8) :
    pad (stripPad (urlsafeEncode bytes)) = urlsafeEncode bytes := by
  obtain ⟨body, k, hencode, hbody, hk⟩ := exists_encode_eq bytes
  have hstrip : stripPad (body.map toUrl ++ List.replicate k '=') = body.map toUrl := by
    refine stripPad_append fun hmem => ?_
    obtain ⟨d, hd, heq⟩ := List.mem_map.1 hmem
    obtain ⟨n, hn, rfl⟩ := hbody d hd
    exact toUrl_char_ne hn heq
  have hequals : toUrl '=' = '=' := rfl
  rw [urlsafeEncode, hencode, List.map_append, List.map_replicate, hequals, hstrip, pad,
    List.length_map, hk]

/-- What was encoded for a URL is read back. -/
theorem urlsafeDecode_urlsafeEncode (bytes : List UInt8) :
    urlsafeDecode (urlsafeEncode bytes) = some bytes := by
  have hchar : ∀ c ∈ encode bytes, ofUrl (toUrl c) = c := by
    intro c hc
    obtain ⟨body, k, hencode, hbody, -⟩ := exists_encode_eq bytes
    rw [hencode, List.mem_append] at hc
    rcases hc with hc | hc
    · obtain ⟨n, hn, rfl⟩ := hbody c hc
      exact ofUrl_toUrl (char_mem hn)
    · rw [List.eq_of_mem_replicate hc]
      rfl
  rw [urlsafeDecode, urlsafeEncode, List.map_map]
  have hmap : (encode bytes).map (ofUrl ∘ toUrl) = encode bytes := by
    conv_rhs => rw [← List.map_id (encode bytes)]
    exact List.map_congr_left hchar
  rw [hmap, decode_encode]

/-! ## The spelling of an encoding -/

/-- The six bits of a character of the alphabet of URLs. -/
def urlDigit (c : Char) : Option Nat := if c = '+' ∨ c = '/' then none else digit (ofUrl c)

/-- A text in the alphabet of URLs without padding, whose last group leaves no bit over. -/
def Canonical : List Char → Prop
  | [] => True
  | [_] => False
  | [a, b] => (∃ i, urlDigit a = some i) ∧ ∃ j, urlDigit b = some j ∧ j % 16 = 0
  | [a, b, c] => (∃ i, urlDigit a = some i) ∧ (∃ j, urlDigit b = some j)
      ∧ ∃ k, urlDigit c = some k ∧ k % 4 = 0
  | a :: b :: c :: d :: rest => (∃ i, urlDigit a = some i) ∧ (∃ j, urlDigit b = some j)
      ∧ (∃ k, urlDigit c = some k) ∧ (∃ l, urlDigit d = some l) ∧ Canonical rest

/-- The characters of an encoding in the alphabet of URLs, without its padding. -/
def urlBody : List UInt8 → List Char
  | [] => []
  | [a] => [toUrl (char (a.toNat / 4)), toUrl (char (a.toNat % 4 * 16))]
  | [a, b] => [toUrl (char (a.toNat / 4)), toUrl (char (a.toNat % 4 * 16 + b.toNat / 16)),
      toUrl (char (b.toNat % 16 * 4))]
  | a :: b :: c :: rest =>
    toUrl (char (a.toNat / 4)) :: toUrl (char (a.toNat % 4 * 16 + b.toNat / 16))
      :: toUrl (char (b.toNat % 16 * 4 + c.toNat / 64)) :: toUrl (char (c.toNat % 64))
          :: urlBody rest

lemma urlDigit_toUrl {n : Nat} (h : n < 64) : urlDigit (toUrl (char n)) = some n := by
  have hall : (alphabet.all fun c => decide ¬(toUrl c = '+' ∨ toUrl c = '/')) = true := by
    rw [alphabet_eq]
    rfl
  have hplain := of_decide_eq_true (List.all_eq_true.1 hall _ (char_mem h))
  rw [urlDigit, if_neg hplain, ofUrl_toUrl (char_mem h)]
  exact (digit_char h).1

lemma eq_toUrl_of_urlDigit {c : Char} {n : Nat} (h : urlDigit c = some n) :
    n < 64 ∧ toUrl (char n) = c := by
  rw [urlDigit] at h
  split_ifs at h with hplain
  obtain ⟨hplus, hslash⟩ := not_or.1 hplain
  obtain ⟨hlt, hget⟩ : ∃ hlt : n < alphabet.length, alphabet[n] = ofUrl c := by
    obtain ⟨hlt, heq, -⟩ := List.idxOf?_eq_some_iff.1 h
    exact ⟨hlt, heq⟩
  have hchar : char n = ofUrl c := by
    rw [char, List.getD_eq_getElem?_getD, List.getElem?_eq_getElem hlt, Option.getD_some, hget]
  refine ⟨hlt, ?_⟩
  rw [hchar, ofUrl]
  split_ifs with h1 h2
  · rw [h1]
    rfl
  · rw [h2]
    rfl
  · rw [toUrl, if_neg hplus, if_neg hslash]

lemma urlBody_canonical (bytes : List UInt8) : Canonical (urlBody bytes) := by
  induction bytes using urlBody.induct with
  | case1 => exact trivial
  | case2 a =>
    have ha := a.toNat_lt
    exact ⟨⟨_, urlDigit_toUrl (by omega)⟩, _, urlDigit_toUrl (by omega), by omega⟩
  | case3 a b =>
    have ha := a.toNat_lt
    have hb := b.toNat_lt
    exact ⟨⟨_, urlDigit_toUrl (by omega)⟩, ⟨_, urlDigit_toUrl (by omega)⟩, _,
      urlDigit_toUrl (by omega), by omega⟩
  | case4 a b c rest ih =>
    have ha := a.toNat_lt
    have hb := b.toNat_lt
    have hc := c.toNat_lt
    exact ⟨⟨_, urlDigit_toUrl (by omega)⟩, ⟨_, urlDigit_toUrl (by omega)⟩,
      ⟨_, urlDigit_toUrl (by omega)⟩, ⟨_, urlDigit_toUrl (by omega)⟩, ih⟩

lemma exists_urlBody {text : List Char} (h : Canonical text) : ∃ bytes, urlBody bytes = text := by
  have hbyte : ∀ n < 256, (UInt8.ofNat n).toNat = n := fun n hn => Nat.mod_eq_of_lt hn
  induction text using Canonical.induct with
  | case1 => exact ⟨[], rfl⟩
  | case2 => exact h.elim
  | case3 a b =>
    obtain ⟨⟨i, hi⟩, j, hj, hover⟩ := h
    obtain ⟨hi, rfl⟩ := eq_toUrl_of_urlDigit hi
    obtain ⟨hj, rfl⟩ := eq_toUrl_of_urlDigit hj
    refine ⟨[UInt8.ofNat (i * 4 + j / 16)], ?_⟩
    rw [urlBody, hbyte _ (by omega)]
    congr 5 <;> omega
  | case4 a b c =>
    obtain ⟨⟨i, hi⟩, ⟨j, hj⟩, k, hk, hover⟩ := h
    obtain ⟨hi, rfl⟩ := eq_toUrl_of_urlDigit hi
    obtain ⟨hj, rfl⟩ := eq_toUrl_of_urlDigit hj
    obtain ⟨hk, rfl⟩ := eq_toUrl_of_urlDigit hk
    refine ⟨[UInt8.ofNat (i * 4 + j / 16), UInt8.ofNat (j % 16 * 16 + k / 4)], ?_⟩
    rw [urlBody, hbyte _ (by omega), hbyte _ (by omega)]
    congr 5
    · omega
    · omega
    · omega
  | case5 a b c d rest ih =>
    obtain ⟨⟨i, hi⟩, ⟨j, hj⟩, ⟨k, hk⟩, ⟨l, hl⟩, hrest⟩ := h
    obtain ⟨hi, rfl⟩ := eq_toUrl_of_urlDigit hi
    obtain ⟨hj, rfl⟩ := eq_toUrl_of_urlDigit hj
    obtain ⟨hk, rfl⟩ := eq_toUrl_of_urlDigit hk
    obtain ⟨hl, rfl⟩ := eq_toUrl_of_urlDigit hl
    obtain ⟨bytes, rfl⟩ := ih hrest
    refine ⟨UInt8.ofNat (i * 4 + j / 16) :: UInt8.ofNat (j % 16 * 16 + k / 4)
      :: UInt8.ofNat (k % 4 * 64 + l) :: bytes, ?_⟩
    have h1 : (i * 4 + j / 16) / 4 = i := by omega
    have h2 : (i * 4 + j / 16) % 4 * 16 + (j % 16 * 16 + k / 4) / 16 = j := by omega
    have h3 : (j % 16 * 16 + k / 4) % 16 * 4 + (k % 4 * 64 + l) / 64 = k := by omega
    have h4 : (k % 4 * 64 + l) % 64 = l := by omega
    rw [urlBody, hbyte _ (by omega), hbyte _ (by omega), hbyte _ (by omega), h1, h2, h3, h4]

lemma urlsafeEncode_eq (bytes : List UInt8) :
    ∃ k, urlsafeEncode bytes = urlBody bytes ++ List.replicate k '=' := by
  rw [urlsafeEncode]
  induction bytes using encode.induct with
  | case1 => exact ⟨0, rfl⟩
  | case2 a => exact ⟨2, rfl⟩
  | case3 a b => exact ⟨1, rfl⟩
  | case4 a b c rest ih =>
    obtain ⟨k, hk⟩ := ih
    refine ⟨k, ?_⟩
    rw [encode, urlBody, List.map_cons, List.map_cons, List.map_cons, List.map_cons, hk]
    rfl

/-- What an encoding is without its padding. -/
lemma stripPad_urlsafeEncode (bytes : List UInt8) :
    stripPad (urlsafeEncode bytes) = urlBody bytes := by
  obtain ⟨k, hk⟩ := urlsafeEncode_eq bytes
  rw [hk]
  refine stripPad_append fun hmem => ?_
  have hpad : ∀ text, Canonical text → '=' ∉ text := by
    have hequals : urlDigit '=' = none := by
      rw [urlDigit, digit, alphabet_eq]
      decide +kernel
    intro text h
    induction text using Canonical.induct with
    | case1 => exact List.not_mem_nil
    | case2 => exact h.elim
    | case3 a b =>
      obtain ⟨⟨i, hi⟩, j, hj, -⟩ := h
      grind
    | case4 a b c =>
      obtain ⟨⟨i, hi⟩, ⟨j, hj⟩, k, hk, -⟩ := h
      grind
    | case5 a b c d rest ih =>
      obtain ⟨⟨i, hi⟩, ⟨j, hj⟩, ⟨k, hk⟩, ⟨l, hl⟩, hrest⟩ := h
      have := ih hrest
      grind
  exact hpad _ (urlBody_canonical bytes) hmem

/-- A text is an encoding without its padding exactly when it is spelled as one. -/
theorem canonical_iff {text : List Char} :
    Canonical text ↔ ∃ bytes, stripPad (urlsafeEncode bytes) = text := by
  constructor
  · intro h
    obtain ⟨bytes, hbytes⟩ := exists_urlBody h
    exact ⟨bytes, (stripPad_urlsafeEncode bytes).trans hbytes⟩
  · rintro ⟨bytes, rfl⟩
    rw [stripPad_urlsafeEncode]
    exact urlBody_canonical bytes

end Base64

end Mockdr
