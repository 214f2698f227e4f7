import Mockdr.Odata.NextLink

/-!
# Page tokens

The tokens a page hands back: `encode_skiptoken` and `decode_skiptoken` of `utils/odata_paging.py`,
`encode_page_token` and `decode_page_token` of `utils/cs_pagination.py`. Both are an offset behind a
mark, in the base64 of URLs without padding.

* `encodeToken` and `decodeToken` have the mark as a parameter; `skiptokenOffset` and
  `decodePageToken` are the decoders of the two mounts.
* `Spelled`: a token spelled as an encoder spells it, in its base64 and in its number.
* `decodes_exactly_iff`: the decoders read every token that is handed out, and refuse another string
  unless it spells an offset in another way.
-/

namespace Mockdr

namespace OdataPaging

/-- What a token is refused with. -/
structure TokenError where
  statusCode : Nat := 400
  code : String
  message : String
  deriving DecidableEq

/-- The token of an offset behind a mark; nothing for a number `str` does not write. -/
def encodeToken (mark : String) (offset : Nat) : Option String :=
  if 4300 < (Nat.toDigits 10 offset).length then none
  else
    let raw := QueryString.encodeUtf8 (mark ++ toString (offset : Int)).toList
    some (String.ofList (Base64.stripPad (Base64.urlsafeEncode raw)))

/-- The text behind the mark in a token, nothing where it has none. -/
def numberText (mark token : String) : Option String := do
  let bytes ← Base64.urlsafeDecode (Base64.pad token.toList)
  let raw ← decodeStrict bytes
  cutPrefix mark raw

/-- The offset a token stands for, nothing where it is refused. -/
def decodeToken (py : Python) (mark token : String) : Option Nat := do
  let number ← numberText mark token
  match ← py.parseInt number with
  | .ofNat offset => some offset
  | .negSucc _ => none

/-- `decode_skiptoken`, with its refusal. -/
def skiptokenOffset (py : Python) (token : String) : Except TokenError Nat :=
  match decodeToken py TOKEN_PREFIX token with
  | some offset => .ok offset
  | none => .error {
      code := "Request_BadRequest"
      message := "The specified page token value '" ++ token ++ "' is invalid. Follow the "
        ++ "@odata.nextLink returned by the previous page." }

/-- `_TOKEN_PREFIX` (`utils/cs_pagination.py`) -/
def CS_TOKEN_PREFIX : String := "mockdr-cs:"

/-- `decode_page_token`: no token is the first page. -/
def decodePageToken (py : Python) (token : Option String) : Except TokenError Nat :=
  match token with
  | none => .ok 0
  | some token =>
    if token = "" then .ok 0
    else match decodeToken py CS_TOKEN_PREFIX token with
      | some offset => .ok offset
      | none => .error { code := "400", message := "invalid pagination token: " ++ token }

/-- The decoder of the Graph and Defender mounts reads the tokens as the rest of this development
    has it. -/
lemma decodeToken_skiptoken (py : Python) (token : String) :
    decodeToken py TOKEN_PREFIX token = decodeSkiptoken py token := by
  unfold decodeToken decodeSkiptoken numberText
  refine (Option.bind_assoc _ _ _).trans (Option.bind_congr fun bytes _ => ?_)
  exact Option.bind_assoc _ _ _

/-- A token that is spelled as it would be handed out, if it spells an offset at all: in the
    alphabet of URLs with no bit over, and in the digits that `str` writes. -/
def Spelled (py : Python) (mark token : String) : Prop :=
  ∀ number, numberText mark token = some number →
    (∃ offset : Nat, py.parseInt number = some offset) →
    Base64.Canonical token.toList ∧ PlainNumeral number.toList

variable {py : Python} {mark token : String}

lemma numberText_of_encode {offset : Nat} (h : encodeToken mark offset = some token) :
    numberText mark token = some (toString (offset : Int)) := by
  rw [encodeToken] at h
  split_ifs at h
  obtain rfl := Option.some.inj h
  simp only [numberText, String.toList_ofList, Base64.pad_stripPad_urlsafeEncode,
    Base64.urlsafeDecode_urlsafeEncode, decodeStrict, QueryString.decodeUtf8_encodeUtf8,
    String.ofList_toList, if_true, Option.bind_eq_bind, Option.bind_some,
    cutPrefix_eq_some_iff.2 rfl]

lemma decodeToken_of_encode (hpy : py.AsciiDigits) {offset : Nat}
    (h : encodeToken mark offset = some token) : decodeToken py mark token = some offset := by
  have hshort : (Nat.toDigits 10 offset).length ≤ 4300 := by
    rw [encodeToken] at h
    split_ifs at h with hlong
    exact Nat.not_lt.1 hlong
  rw [decodeToken, numberText_of_encode h]
  simp only [Option.bind_eq_bind, Option.bind_some,
      parseInt_toString hpy (m := (offset : Int)) hshort]

lemma canonical_of_encode {offset : Nat} (h : encodeToken mark offset = some token) :
    Base64.Canonical token.toList := by
  rw [encodeToken] at h
  split_ifs at h
  obtain rfl := Option.some.inj h
  rw [String.toList_ofList, Base64.canonical_iff]
  exact ⟨_, rfl⟩

lemma encode_of_canonical {number : String} {offset : Nat}
    (hcanonical : Base64.Canonical token.toList) (hnumber : numberText mark token = some number)
    (hshort : (Nat.toDigits 10 offset).length ≤ 4300)
    (hplain : Nat.toDigits 10 offset = number.toList) :
    encodeToken mark offset = some token := by
  obtain ⟨bytes, hbytes⟩ := Base64.canonical_iff.1 hcanonical
  rw [numberText, ← hbytes, Base64.pad_stripPad_urlsafeEncode,
    Base64.urlsafeDecode_urlsafeEncode] at hnumber
  change (decodeStrict bytes).bind (cutPrefix mark) = some number at hnumber
  obtain ⟨raw, hraw, hcut⟩ := Option.bind_eq_some_iff.1 hnumber
  rw [decodeStrict] at hraw
  split_ifs at hraw with hutf8
  obtain rfl := Option.some.inj hraw
  have hsame : (toString (offset : Int)) = number := by
    rw [← String.toList_inj, toList_toString, if_neg (by omega), List.nil_append,
      Int.natAbs_natCast, hplain]
  have hraw : QueryString.encodeUtf8 (mark ++ toString (offset : Int)).toList = bytes := by
    rw [hsame, ← cutPrefix_eq_some_iff.1 hcut, String.toList_ofList, hutf8]
  rw [encodeToken, if_neg (Nat.not_lt.2 hshort)]
  simp only [hraw, hbytes, String.ofList_toList]

/-- A token is read exactly if it is handed out, as long as it is spelled as it would be. -/
lemma isSome_decodeToken_iff (hpy : py.AsciiDigits) :
    ((decodeToken py mark token).isSome ↔ ∃ offset, encodeToken mark offset = some token)
      ↔ Spelled py mark token := by
  constructor
  · rintro hiff number hnumber ⟨n, hn⟩
    have hsome : (decodeToken py mark token).isSome := by
      rw [decodeToken, hnumber]
      simp only [Option.bind_eq_bind, Option.bind_some, hn]
      rfl
    obtain ⟨offset, hoffset⟩ := hiff.1 hsome
    have hsame := Option.some.inj (hnumber.symm.trans (numberText_of_encode hoffset))
    refine ⟨canonical_of_encode hoffset, plainNumeral_iff.2 ⟨offset, ?_⟩⟩
    rw [hsame, toList_toString, if_neg (by omega), List.nil_append, Int.natAbs_natCast]
  · intro hspelled
    constructor
    · intro hsome
      obtain ⟨n, hn⟩ := Option.isSome_iff_exists.1 hsome
      obtain ⟨number, hnumber, hread⟩ := Option.bind_eq_some_iff.1 hn
      obtain ⟨m, hm, hnat⟩ := Option.bind_eq_some_iff.1 hread
      obtain ⟨k, rfl⟩ : ∃ k : Nat, m = k := by
        cases m with
        | ofNat k => exact ⟨k, rfl⟩
        | negSucc k => cases hnat
      obtain ⟨hcanonical, hplain⟩ := hspelled number hnumber ⟨k, hm⟩
      obtain ⟨offset, hoffset⟩ := plainNumeral_iff.1 hplain
      have hsame : toString (offset : Int) = number := by
        rw [← String.toList_inj, toList_toString, if_neg (by omega), List.nil_append,
          Int.natAbs_natCast, hoffset]
      have hshort : (Nat.toDigits 10 offset).length ≤ 4300 := by
        by_contra hlong
        rw [← hsame, parseInt_toString_of_long hpy (Nat.not_le.1 hlong)] at hm
        cases hm
      exact ⟨offset, encode_of_canonical hcanonical hnumber hshort hoffset⟩
    · rintro ⟨offset, hoffset⟩
      rw [decodeToken_of_encode hpy hoffset]
      rfl

lemma encodeToken_bind_decodeToken (hpy : py.AsciiDigits) {offset : Nat} :
    (encodeToken mark offset).bind (decodeToken py mark) = some offset
      ↔ (Nat.toDigits 10 offset).length ≤ 4300 := by
  constructor
  · intro h
    obtain ⟨token, htoken, -⟩ := Option.bind_eq_some_iff.1 h
    rw [encodeToken] at htoken
    split_ifs at htoken with hlong
    exact Nat.not_lt.1 hlong
  · intro h
    rw [encodeToken, if_neg (Nat.not_lt.2 h), Option.bind_some]
    exact decodeToken_of_encode hpy (if_neg (Nat.not_lt.2 h))

lemma skiptokenOffset_eq_ok_iff {offset : Nat} :
    skiptokenOffset py token = .ok offset ↔ decodeToken py TOKEN_PREFIX token = some offset := by
  rw [skiptokenOffset]
  cases decodeToken py TOKEN_PREFIX token with
  | none => exact ⟨nofun, nofun⟩
  | some n => simp only [Except.ok.injEq, Option.some.injEq]

lemma decodePageToken_eq_ok_iff {offset : Nat} (htoken : token ≠ "") :
    decodePageToken py (some token) = .ok offset
      ↔ decodeToken py CS_TOKEN_PREFIX token = some offset := by
  rw [decodePageToken, if_neg htoken]
  cases decodeToken py CS_TOKEN_PREFIX token with
  | none => exact ⟨nofun, nofun⟩
  | some n => simp only [Except.ok.injEq, Option.some.injEq]

lemma encodeToken_ne_empty (offset : Nat) : encodeToken CS_TOKEN_PREFIX offset ≠ some "" := by
  intro h
  have hnone : numberText CS_TOKEN_PREFIX "" = none := rfl
  rw [numberText_of_encode h] at hnone
  cases hnone

/-- Both decoders read the offsets back that their encoders can write, and they accept the tokens
    that are handed out and no others, but for the strings that spell an offset differently; the
    Falcon mount takes the empty string for the first page. -/
theorem decodes_exactly_iff (py : Python) (hpy : py.AsciiDigits) :
    (∀ offset : Nat, (∃ token, encodeToken TOKEN_PREFIX offset = some token
          ∧ skiptokenOffset py token = .ok offset) ↔ (Nat.toDigits 10 offset).length ≤ 4300)
      ∧ (∀ token, ((∃ offset, skiptokenOffset py token = .ok offset)
          ↔ ∃ offset, encodeToken TOKEN_PREFIX offset = some token)
        ↔ Spelled py TOKEN_PREFIX token)
      ∧ (∀ offset : Nat, (∃ token, encodeToken CS_TOKEN_PREFIX offset = some token
          ∧ decodePageToken py (some token) = .ok offset)
        ↔ (Nat.toDigits 10 offset).length ≤ 4300)
      ∧ ∀ token, ((∃ offset, decodePageToken py (some token) = .ok offset)
          ↔ ∃ offset, encodeToken CS_TOKEN_PREFIX offset = some token)
        ↔ token ≠ "" ∧ Spelled py CS_TOKEN_PREFIX token := by
  refine ⟨fun offset => ?_, fun token => ?_, fun offset => ?_, fun token => ?_⟩
  · rw [← @encodeToken_bind_decodeToken py TOKEN_PREFIX hpy, Option.bind_eq_some_iff]
    simp only [skiptokenOffset_eq_ok_iff]
  · rw [← isSome_decodeToken_iff hpy, Option.isSome_iff_exists]
    simp only [skiptokenOffset_eq_ok_iff]
  · rw [← @encodeToken_bind_decodeToken py CS_TOKEN_PREFIX hpy, Option.bind_eq_some_iff]
    refine exists_congr fun token => and_congr_right fun htoken => decodePageToken_eq_ok_iff ?_
    rintro rfl
    exact encodeToken_ne_empty offset htoken
  · by_cases htoken : token = ""
    · subst htoken
      refine ⟨fun h => ?_, fun h => absurd rfl h.1⟩
      obtain ⟨offset, hoffset⟩ := h.1 ⟨0, rfl⟩
      exact absurd hoffset (encodeToken_ne_empty offset)
    · rw [and_iff_right htoken, ← isSome_decodeToken_iff hpy, Option.isSome_iff_exists]
      simp only [decodePageToken_eq_ok_iff htoken]

/-- The offset five, and a token of it. -/
theorem five_decoded :
    (∃ token, encodeToken TOKEN_PREFIX 5 = some token
      ∧ skiptokenOffset asciiPython token = .ok 5) :=
  ((decodes_exactly_iff asciiPython fun _ hc => if_pos hc).1 5).2 (by decide)

/-- A space and a sign in front of the number and an underscore in it are accepted, and so are
    characters outside of the alphabet; neither token is one that is handed out. -/
theorem other_spellings_accepted :
    skiptokenOffset asciiPython "bW9ja2RyLXBhZ2U6ICs1XzA" = .ok 50
      ∧ (¬ ∃ offset, encodeToken TOKEN_PREFIX offset = some "bW9ja2RyLXBhZ2U6ICs1XzA")
      ∧ skiptokenOffset asciiPython "bW9j a2Ry LXBhZ2U6 NQ!" = .ok 5
      ∧ ¬ ∃ offset, encodeToken TOKEN_PREFIX offset = some "bW9j a2Ry LXBhZ2U6 NQ!" := by
  have hascii : asciiPython.AsciiDigits := fun _ hc => if_pos hc
  have hread : decodeToken asciiPython TOKEN_PREFIX "bW9ja2RyLXBhZ2U6ICs1XzA" = some 50 := by
    decide +kernel
  have hread' : decodeToken asciiPython TOKEN_PREFIX "bW9j a2Ry LXBhZ2U6 NQ!" = some 5 := by
    decide +kernel
  have hother : ∀ {token n}, decodeToken asciiPython TOKEN_PREFIX token = some n →
      encodeToken TOKEN_PREFIX n ≠ some token →
      ¬ ∃ offset, encodeToken TOKEN_PREFIX offset = some token := by
    rintro token n hn hne ⟨offset, hoffset⟩
    have hsame := hn.symm.trans (decodeToken_of_encode hascii hoffset)
    obtain rfl := Option.some.inj hsame
    exact hne hoffset
  exact ⟨skiptokenOffset_eq_ok_iff.2 hread, hother hread (by decide +kernel),
    skiptokenOffset_eq_ok_iff.2 hread', hother hread' (by decide +kernel)⟩

end OdataPaging

end Mockdr
