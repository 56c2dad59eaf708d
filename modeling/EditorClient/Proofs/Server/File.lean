/-
# What a server file says

The first line of a server file names an address: the text of a host, perhaps with blanks
around it, a colon, and the number of a service behind blanks. `Says` is that rule, apart
from the program that reads it, and a line is read as an address exactly if it says it.

What is behind the line is the secret. That holds where the line ends within the limit, and
then a file that was written is read back whatever bytes the secret has and whatever
follows it. A first line that is too long is not refused: it counts as if it ended at the
limit, and the secret is taken from what is left of it.
-/

import EditorClient.Proofs.Server.Address
import EditorClient.Proofs.Text.Lossless
import EditorClient.Server.File

namespace EditorClient.ServerFile

open Bytes Pieces

/-! ## Lines that say an address -/

/-- The number that digits of ASCII denote. -/
def number (digits : Bytes) : Nat := digits.foldl (fun n b => 10 * n + (b.toNat - 48)) 0

/-- A text that begins with a number behind blanks, and what the number is: the digits
are as many as there are, at least one. -/
structure Numbers (text : Bytes) (n : Nat) (blanks digits rest : Bytes) : Prop where
  whole : text = blanks ++ (digits ++ rest)
  blank : ∀ b ∈ blanks, isAsciiBlank b = true
  nonempty : digits ≠ []
  digit : ∀ b ∈ digits, isDigit b = true
  ends : ∀ b, rest.head? = some b → isDigit b = false
  value : number digits = n

/-- The bytes of the text of a host, with blanks around it or without. -/
def Names (host : Bytes) (ip : Ipv4) : Prop :=
  ∃ lead trail : List Char,
    host = ofText (String.ofList (lead ++ (ip.toText.toList ++ trail))) ∧
    (∀ c ∈ lead, Blank.isBlank c = true) ∧ ∀ c ∈ trail, Blank.isBlank c = true

/-- What a line says. The host ends at the first colon. -/
inductive Says : Bytes → Address → Prop
  | address {host rest blanks digits more : Bytes} {ip : Ipv4} {service : UInt16}
      (noColon : colon ∉ host) (named : Names host ip)
      (numbered : Numbers rest service.toNat blanks digits more) :
      Says (host ++ colon :: rest) ⟨ip, service⟩

/-! ## Numbers -/

/-- A byte as the character with the same number. -/
def character (b : UInt8) : Char := Char.ofNat b.toNat

theorem toNat_character (b : UInt8) : (character b).toNat = b.toNat := by
  have valid : b.toNat.isValidChar := .inl (Nat.lt_trans b.toNat_lt (by decide))
  rw [character, Char.ofNat, dif_pos valid]
  rfl

theorem isDigit_character (b : UInt8) : Decimal.isDigit (character b) = isDigit b := by
  rw [Decimal.isDigit, toNat_character, isDigit]
  rfl

theorem value_characters (digits : Bytes) :
    Decimal.value (digits.map character) = number digits := by
  rw [Decimal.value, List.foldl_map, number]
  simp only [Decimal.digit, toNat_character]

theorem digits_characters {digits : Bytes} :
    Decimal.Digits (digits.map character) ↔ digits ≠ [] ∧ ∀ b ∈ digits, isDigit b = true := by
  simp only [Decimal.Digits, ne_eq, List.map_eq_nil_iff, List.forall_mem_map, isDigit_character]

theorem not_isDigit_of_isAsciiBlank {b : UInt8} (blank : isAsciiBlank b = true) :
    isDigit b = false := by
  simp only [isAsciiBlank, Bool.or_eq_true, decide_eq_true_eq] at blank
  rcases blank with (((rfl | rfl) | rfl) | rfl) | rfl <;> decide

/-- Where a number begins, nothing else can be taken for its digits. -/
theorem Numbers.takeWhile_dropWhile {text blanks digits rest : Bytes} {n : Nat}
    (numbers : Numbers text n blanks digits rest) :
    (text.dropWhile isAsciiBlank).takeWhile isDigit = digits := by
  obtain ⟨b, more, shape⟩ := List.exists_cons_of_ne_nil numbers.nonempty
  have solid : isAsciiBlank b = false := by
    have digit := numbers.digit b (shape ▸ List.mem_cons_self)
    by_contra blank
    rw [not_isDigit_of_isAsciiBlank (by simpa using blank)] at digit
    nomatch digit
  have kept : (digits ++ rest).dropWhile isAsciiBlank = digits ++ rest := by
    rw [shape, List.cons_append, List.dropWhile_cons_of_neg (by simp [solid])]
  have none : rest.takeWhile isDigit = [] := by
    cases rest with
    | nil => rfl
    | cons next others =>
        rw [List.takeWhile_cons_of_neg]
        rw [numbers.ends next rfl]
        exact Bool.false_ne_true
  rw [numbers.whole, List.dropWhile_append_of_pos numbers.blank, kept,
    List.takeWhile_append_of_pos numbers.digit, none, List.append_nil]

/-- The number of a service is read exactly if there is one that fits: it is the value of
the digits, and no number is read as another. -/
theorem service?_eq_some_iff {text : Bytes} {service : UInt16} :
    service? text = some service ↔
      ∃ blanks digits rest, Numbers text service.toNat blanks digits rest := by
  constructor
  · intro read
    obtain ⟨n, natural, read⟩ := Option.bind_eq_some_iff.mp read
    obtain ⟨written, rfl⟩ := Decimal.natural?_eq_some_iff.mp natural
    obtain ⟨nonempty, digit⟩ := digits_characters.mp written
    split at read
    case isTrue fits =>
        refine ⟨text.takeWhile isAsciiBlank, _, (text.dropWhile isAsciiBlank).dropWhile isDigit,
          ?_, fun b there => List.mem_takeWhile_imp there, nonempty, digit, ?_, ?_⟩
        · rw [List.takeWhile_append_dropWhile, List.takeWhile_append_dropWhile]
        · intro b first
          have rule := List.head?_dropWhile_not isDigit (text.dropWhile isAsciiBlank)
          rwa [first] at rule
        · rw [← Option.some.inj read, Nat.toUInt16, UInt16.toNat_ofNat', Nat.mod_eq_of_lt fits]
          exact (value_characters _).symm
    case isFalse => nomatch read
  · rintro ⟨blanks, digits, rest, numbers⟩
    have natural : Decimal.natural? (digits.map character) = some service.toNat := by
      rw [← numbers.value, ← value_characters]
      exact Decimal.natural?_eq_some_iff.mpr
        ⟨digits_characters.mpr ⟨numbers.nonempty, numbers.digit⟩, rfl⟩
    have fits : service.toNat < UInt16.size := service.toNat_lt
    rw [service?, numbers.takeWhile_dropWhile]
    show (Decimal.natural? (digits.map character)).bind _ = _
    rw [natural, Option.bind_some, if_pos fits, Nat.toUInt16, UInt16.ofNat_toNat]

/-! ## Addresses -/

/-- What is cut away around the text of a host are the blanks. -/
theorem trim_eq_toText_iff {text : List Char} {ip : Ipv4} :
    Blank.trim text = ip.toText.toList ↔
      ∃ lead trail, text = lead ++ (ip.toText.toList ++ trail) ∧
        (∀ c ∈ lead, Blank.isBlank c = true) ∧ ∀ c ∈ trail, Blank.isBlank c = true := by
  constructor
  · intro trimmed
    have shape := Blank.exists_trim text
    rwa [trimmed] at shape
  · rintro ⟨lead, trail, rfl, before, after⟩
    have solid : ∀ c ∈ ip.toText.toList, Blank.isBlank c = false := by
      intro c there
      rcases Ipv4.isDigit_or_point there with digit | rfl
      · exact Blank.isBlank_of_isDigit digit
      · decide
    have nonempty : ip.toText.toList ≠ [] := by
      rw [Ipv4.toList_toText]
      simp
    rw [Blank.trim_of_word nonempty solid before, List.rdropWhile_eq_nil_iff.mpr after,
      List.append_nil]

/-- A host is read exactly from the bytes that name it. -/
theorem names_iff {host : Bytes} {ip : Ipv4} :
    ((Utf8.strict? host).bind fun text => Ipv4.read? (Blank.trim text.toList)) = some ip ↔
      Names host ip := by
  rw [Option.bind_eq_some_iff]
  constructor
  · rintro ⟨text, accepted, read⟩
    obtain ⟨lead, trail, shape, before, after⟩ :=
      trim_eq_toText_iff.mp (Ipv4.read?_eq_some_iff.mp read)
    refine ⟨lead, trail, ?_, before, after⟩
    rw [← shape, String.ofList_toList]
    exact Utf8.strict?_eq_some_iff.mp accepted
  · rintro ⟨lead, trail, rfl, before, after⟩
    refine ⟨_, Utf8.strict?_ofText _, Ipv4.read?_eq_some_iff.mpr ?_⟩
    rw [String.toList_ofList]
    exact trim_eq_toText_iff.mpr ⟨lead, trail, rfl, before, after⟩

theorem address?_of_colon {host : Bytes} (noColon : colon ∉ host) (rest : Bytes) :
    address? (host ++ colon :: rest) =
      ((Utf8.strict? host).bind fun text => Ipv4.read? (Blank.trim text.toList)).bind fun ip =>
        (service? rest).map fun service => ⟨ip, service⟩ := by
  rw [address?, cut_cons_of_not_mem noColon, Option.bind_assoc]
  simp only [Option.map_eq_bind]
  rfl

/-- A line is read as an address exactly if it says it. -/
theorem address?_eq_some_iff {line : Bytes} {address : Address} :
    address? line = some address ↔ Says line address := by
  constructor
  · intro read
    by_cases divided : colon ∈ line
    · obtain ⟨host, rest, rfl, noColon⟩ := List.eq_append_cons_of_mem divided
      rw [address?_of_colon noColon] at read
      obtain ⟨ip, host_, read⟩ := Option.bind_eq_some_iff.mp read
      obtain ⟨service, number_, rfl⟩ := Option.map_eq_some_iff.mp read
      obtain ⟨blanks, digits, more, numbers⟩ := service?_eq_some_iff.mp number_
      exact .address noColon (names_iff.mp host_) numbers
    · rw [address?, cut_of_not_mem divided] at read
      nomatch read
  · intro stated
    cases stated with
    | address noColon named numbered =>
        rw [address?_of_colon noColon, names_iff.mpr named, Option.bind_some,
          service?_eq_some_iff.mpr ⟨_, _, _, numbered⟩]
        rfl

/-! ## First lines -/

/-- A newline within the limit ends the first line. -/
theorem lineLength_of_line {text : Bytes} (absent : newline ∉ text)
    (short : text.length < lineLimit) (rest : Bytes) :
    lineLength (text ++ newline :: rest) = text.length + 1 := by
  obtain ⟨room, enough⟩ : ∃ room, lineLimit - text.length = room + 1 :=
    Nat.exists_eq_add_one_of_ne_zero (Nat.sub_ne_zero_of_lt short)
  have window : (text ++ newline :: rest).take lineLimit = text ++ newline :: rest.take room := by
    rw [List.take_append, List.take_of_length_le (Nat.le_of_lt short), enough, List.take_succ_cons]
  rw [lineLength, window, cut_cons_of_not_mem absent]

/-- Without one, all that is looked at counts as the first line. -/
theorem take_lineLength_of_not_mem {bytes : Bytes} (absent : newline ∉ bytes.take lineLimit) :
    bytes.take (lineLength bytes) = bytes.take lineLimit := by
  rw [lineLength, cut_of_not_mem absent]
  simp [List.length_take]

/-- Where a newline is within the limit, the first line ends with the first of them. -/
theorem exists_line {bytes : Bytes} (ended : newline ∈ bytes.take lineLimit) :
    ∃ text rest, bytes = text ++ newline :: rest ∧ newline ∉ text ∧ text.length < lineLimit := by
  obtain ⟨text, more, window, absent⟩ := List.eq_append_cons_of_mem ended
  refine ⟨text, more ++ bytes.drop lineLimit, ?_, absent, ?_⟩
  · rw [← List.cons_append, ← List.append_assoc, ← window, List.take_append_drop]
  · have total := congrArg List.length window
    rw [List.length_take, List.length_append, List.length_cons] at total
    omega

/-- A file with a first line is refused unless the line names an address and a whole secret
follows it. -/
theorem parse_of_line {text : Bytes} (absent : newline ∉ text) (short : text.length < lineLimit)
    (rest : Bytes) : parse (text ++ newline :: rest) =
      match address? (text ++ [newline]) with
      | none => .error noAddress
      | some address =>
        if tokenLength ≤ rest.length then .ok ⟨address, rest.take tokenLength⟩
        else .error noToken := by
  have whole : text ++ newline :: rest = (text ++ [newline]) ++ rest := by simp
  have length : (text ++ [newline]).length = text.length + 1 := by simp
  have enough : (rest.take tokenLength).length = tokenLength ↔ tokenLength ≤ rest.length := by
    rw [List.length_take]
    omega
  rw [parse, lineLength_of_line absent short, whole, List.take_left' length,
    List.drop_left' length]
  cases address? (text ++ [newline]) with
  | none => rfl
  | some address => simp only [enough]

/-- Without an address a file is refused, and for no other reason in the same words. -/
theorem parse_eq_noAddress_iff {bytes : Bytes} :
    parse bytes = .error noAddress ↔ ∀ address, ¬ Says (bytes.take (lineLength bytes)) address := by
  have other : noToken ≠ noAddress := by decide
  simp only [← address?_eq_some_iff, ← Option.eq_none_iff_forall_ne_some]
  rw [parse]
  cases address? (bytes.take (lineLength bytes)) with
  | none => simp
  | some address =>
      dsimp only
      split <;> simp [other]

/-! ## The secret -/

/-- A file that was read as a whole line and what is behind it: the first newline is within
the limit, the line names the address, and the secret is the 64 bytes that follow. -/
def ReadBehindLine (bytes : Bytes) (file : ServerFile) : Prop :=
  ∃ text later, bytes = text ++ newline :: (file.token ++ later) ∧ newline ∉ text ∧
    text.length < lineLimit ∧ file.token.length = tokenLength ∧
    Says (text ++ [newline]) file.address

/-- No secret is taken from the middle of a line: a file that is read is read behind its
first line, and one without a first line within the limit is refused. -/
structure KeepsToLine (bytes : Bytes) : Prop where
  read : ∀ file, parse bytes = .ok file → ReadBehindLine bytes file
  refused : newline ∉ bytes.take lineLimit →
    parse bytes = .error (.protocolViolation "invalid configuration info")

theorem readBehindLine_of_ok {text rest : Bytes} {file : ServerFile} (absent : newline ∉ text)
    (short : text.length < lineLimit) (read : parse (text ++ newline :: rest) = .ok file) :
    ReadBehindLine (text ++ newline :: rest) file := by
  rw [parse_of_line absent short] at read
  cases found : address? (text ++ [newline]) with
  | none =>
      rw [found] at read
      nomatch read
  | some address =>
      simp only [found] at read
      split at read
      case isTrue enough =>
          cases read
          refine ⟨text, rest.drop tokenLength, ?_, absent, short, ?_,
            address?_eq_some_iff.mp found⟩
          · rw [List.take_append_drop]
          · exact List.length_take_of_le enough
      case isFalse => nomatch read

/-- The secret of a file is kept to what follows its first line exactly if there is a newline
within the limit, or no address before the limit. What begins with an address and has no
newline there is cut at the limit instead. -/
theorem keepsToLine_iff (bytes : Bytes) :
    KeepsToLine bytes ↔
      newline ∈ bytes.take lineLimit ∨ ∀ address, ¬ Says (bytes.take lineLimit) address := by
  by_cases ended : newline ∈ bytes.take lineLimit
  · apply iff_of_true _ (.inl ended)
    obtain ⟨text, rest, rfl, absent, short⟩ := exists_line ended
    exact ⟨fun file => readBehindLine_of_ok absent short, absurd ended⟩
  · have refused : parse bytes = .error noAddress ↔
        ∀ address, ¬ Says (bytes.take lineLimit) address := by
      rw [parse_eq_noAddress_iff, take_lineLength_of_not_mem ended]
    rw [or_iff_right ended, ← refused]
    constructor
    · intro keeps
      exact keeps.refused ended
    · intro error
      refine ⟨fun file read => ?_, fun _ => error⟩
      rw [error] at read
      nomatch read

/-- A first line of 40 bytes: the secret begins with the last nine of them. -/
theorem secret_begins_in_line :
    let line := ofText "127.0.0.1:38021 on the host of the edit" ++ [newline]
    let secret : Bytes := List.replicate tokenLength 107
    newline ∉ (line ++ secret).take lineLimit ∧
      parse (line ++ secret) = .ok ⟨⟨⟨127, 0, 0, 1⟩, 38021⟩,
        ofText "the edit" ++ newline :: secret.take 55⟩ ∧
      ¬ KeepsToLine (line ++ secret) := by
  intro line secret
  have absent : newline ∉ (line ++ secret).take lineLimit := by decide
  have read : parse (line ++ secret) = .ok ⟨⟨⟨127, 0, 0, 1⟩, 38021⟩,
      ofText "the edit" ++ newline :: secret.take 55⟩ := by decide +kernel
  refine ⟨absent, read, fun keeps => ?_⟩
  rw [keeps.refused absent] at read
  nomatch read

/-! ## Files that are written -/

/-- The first line that a server writes: its address, and perhaps more behind it. -/
def lineOf (address : Address) (more : Bytes) : Bytes :=
  ofText address.toText ++ (more ++ [newline])

/-- Characters of ASCII are written as the bytes with the same numbers. -/
theorem map_character_ofText {text : String} (ascii : ∀ c ∈ text.toList, c.toNat < 128) :
    (ofText text).map character = text.toList := by
  rw [ofText]
  generalize text.toList = characters at ascii ⊢
  induction characters with
  | nil => rfl
  | cons c rest ih =>
      have small : c.toNat < 128 := ascii c List.mem_cons_self
      have here : String.utf8EncodeChar c = [UInt8.ofNat c.toNat] := by
        have form := Utf8.encode_one (Nat.le_of_lt_succ small)
        rwa [Char.ofNat_toNat] at form
      have back : character (UInt8.ofNat c.toNat) = c := by
        rw [character, Utf8.toNat_ofNat_byte (by omega), Char.ofNat_toNat]
      rw [List.flatMap_cons, List.map_append, here,
        ih fun c there => ascii c (List.mem_cons_of_mem _ there), List.map_singleton, back,
        List.singleton_append]

theorem ofText_toText (address : Address) : ofText address.toText =
    ofText address.ip.toText ++ colon :: ofText (Decimal.ofNat address.service.toNat) := by
  simp only [Address.toText, ofText, String.toList_append, List.flatMap_append, List.append_assoc]
  rfl

/-- The bytes of a printed number are its digits. -/
theorem numbers_ofNat (n : Nat) {rest : Bytes}
    (ends : ∀ b, rest.head? = some b → isDigit b = false) :
    Numbers (ofText (Decimal.ofNat n) ++ rest) n [] (ofText (Decimal.ofNat n)) rest := by
  have ascii : ∀ c ∈ (Decimal.ofNat n).toList, c.toNat < 128 := by
    intro c there
    rw [Decimal.toList_ofNat] at there
    have digit := Decimal.isDigit_of_mem_toDigits there
    simp only [Decimal.isDigit, Bool.and_eq_true, decide_eq_true_eq] at digit
    omega
  have characters := map_character_ofText ascii
  rw [Decimal.toList_ofNat] at characters
  obtain ⟨nonempty, digit⟩ := digits_characters.mp
    (characters ▸ (Decimal.natural?_eq_some_iff.mp (Decimal.natural?_toDigits n)).1)
  refine ⟨rfl, fun _ none => absurd none List.not_mem_nil, nonempty, digit, ends, ?_⟩
  rw [← value_characters, characters, Decimal.value_toDigits]

/-- Of the bytes of ASCII, the text of a host has only digits and points. -/
theorem not_mem_toText {b : UInt8} (ascii : b.toNat < 128)
    (other : Decimal.isDigit (character b) = false ∧ character b ≠ '.') (ip : Ipv4) :
    b ∉ ofText ip.toText := by
  intro there
  rcases Ipv4.isDigit_or_point ((Utf8.mem_ofText ascii _).mp there) with digit | point
  · exact Bool.false_ne_true (other.1.symm.trans digit)
  · exact other.2 point

theorem newline_not_mem_toText (address : Address) : newline ∉ ofText address.toText := by
  have digits : newline ∉ ofText (Decimal.ofNat address.service.toNat) := by
    intro there
    have read : Numbers _ _ _ _ [] := numbers_ofNat address.service.toNat nofun
    have digit := read.digit newline there
    exact absurd digit (by decide)
  have other : newline ≠ colon := by decide
  rw [ofText_toText, List.mem_append, List.mem_cons, not_or, not_or]
  exact ⟨not_mem_toText (by decide) (by decide) _, other, digits⟩

/-- A line that a server writes says the address of the server. -/
theorem says_lineOf (address : Address) {more : Bytes}
    (ends : ∀ b, more.head? = some b → isDigit b = false) :
    Says (lineOf address more) address := by
  have ends_ : ∀ b, (more ++ [newline]).head? = some b → isDigit b = false := by
    cases more with
    | nil =>
        rintro _ ⟨⟩
        rfl
    | cons first others => exact ends
  have named : Names (ofText address.ip.toText) address.ip :=
    ⟨[], [], by simp, nofun, nofun⟩
  rw [lineOf, ofText_toText, List.append_assoc]
  exact .address (not_mem_toText (by decide) (by decide) _) named (numbers_ofNat _ ends_)

/-- A file that a server has written is read back: whatever bytes the secret has and
whatever follows it, if the first line does not pass the limit. What is shorter by a byte
or more is refused. -/
theorem parse_lineOf (address : Address) {more : Bytes}
    (ends : ∀ b, more.head? = some b → isDigit b = false) (oneLine : newline ∉ more)
    (short : (lineOf address more).length ≤ lineLimit) :
    (∀ token later : Bytes, token.length = tokenLength →
      parse (lineOf address more ++ (token ++ later)) = .ok ⟨address, token⟩) ∧
    ∀ rest : Bytes, rest.length < tokenLength →
      parse (lineOf address more ++ rest) =
        .error (.protocolViolation "cannot read authentication info") := by
  have absent : newline ∉ ofText address.toText ++ more := by
    rw [List.mem_append, not_or]
    exact ⟨newline_not_mem_toText address, oneLine⟩
  have within : (ofText address.toText ++ more).length < lineLimit := by
    rw [lineOf, ← List.append_assoc, List.length_append, List.length_singleton] at short
    exact short
  have line : ofText address.toText ++ more ++ [newline] = lineOf address more :=
    List.append_assoc _ _ _
  have found : address? (ofText address.toText ++ more ++ [newline]) = some address := by
    rw [line]
    exact address?_eq_some_iff.mpr (says_lineOf address ends)
  have cut (rest : Bytes) : lineOf address more ++ rest =
      ofText address.toText ++ more ++ newline :: rest := by
    rw [← line, List.append_assoc, List.singleton_append]
  constructor
  · intro token later whole
    rw [cut, parse_of_line absent within, found]
    dsimp only
    rw [List.length_append, if_pos (by omega), List.take_left' whole]
  · intro rest missing
    rw [cut, parse_of_line absent within, found]
    dsimp only
    rw [if_neg (by omega)]
    rfl

/-- A line up to the limit, and a secret of the bytes that stand between values. -/
theorem parse_lineOf_full :
    let address : Address := ⟨⟨255, 255, 255, 255⟩, 65535⟩
    let more := ofText " 4711 a:b"
    let token := (List.replicate 21 [newline, colon, space]).flatten ++ [newline]
    (∀ b, more.head? = some b → isDigit b = false) ∧ newline ∉ more ∧
      (lineOf address more).length ≤ lineLimit ∧ token.length = tokenLength ∧
      parse (lineOf address more ++ (token ++ ofText "later")) = .ok ⟨address, token⟩ ∧
      parse (lineOf address more ++ token.tail) =
        .error (.protocolViolation "cannot read authentication info") := by
  intro address more token
  have ends : ∀ b, more.head? = some b → isDigit b = false := by
    rintro _ ⟨⟩
    rfl
  have oneLine : newline ∉ more := by decide
  have short : (lineOf address more).length ≤ lineLimit := by decide
  have back := parse_lineOf address ends oneLine short
  exact ⟨ends, oneLine, short, rfl, back.1 token (ofText "later") rfl, back.2 token.tail (by decide)⟩

end EditorClient.ServerFile
