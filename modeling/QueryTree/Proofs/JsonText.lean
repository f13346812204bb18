import QueryTree.Json.Printer
import QueryTree.Json.Reader

/-!
# Values are read back from their text

The writers append to the text written so far, and the readers take a text character by
character, so a text is described by where it leaves the scanner and the builder.
Writing a value in either layout hands that value to the innermost open bracket.
-/

namespace QueryTree
namespace Json

/-!
# Well-formed values
-/

/-- A number that can stand in a text: every part has digits, and none of those before the
point is an extra zero in front. -/
structure Number.WellFormed (number : Number) : Prop where
  whole : number.whole ≠ []
  leading : forall rest : List Digit, number.whole = Digit.zero :: rest -> rest = []
  fraction : forall digits : List Digit, number.fraction = some digits -> digits ≠ []
  exponent : forall (negative : Bool) (digits : List Digit),
    number.exponent = some (negative, digits) -> digits ≠ []

/-- A value all of whose numbers are well-formed. -/
inductive Spelled : Json -> Prop where
  | null : Spelled .null
  | bool (value : Bool) : Spelled (.bool value)
  | num {number : Number} : number.WellFormed -> Spelled (.num number)
  | str (text : String) : Spelled (.str text)
  | arr {items : List Json} : (forall item : Json, item ∈ items -> Spelled item) ->
      Spelled (.arr items)
  | obj {fields : List (String × Json)} :
      (forall field : String × Json, field ∈ fields -> Spelled field.2) -> Spelled (.obj fields)
  | malformed : Spelled .malformed

/-!
# Texts and where they lead
-/

/-- The text leads the scanner to a state. -/
def Scans (out : String) (scanner : Scanner) : Prop :=
  out.toList.foldlM Scanner.step? .start = some scanner

/-- The tokens, newest first, lead the builder to a state. -/
def Builds (tokens : List Token) (builder : Builder) : Prop :=
  tokens.reverse.foldlM Builder.step? .start = some builder

variable {out text : String} {scanner next : Scanner} {tokens : List Token} {token : Token}
  {builder after : Builder}

theorem Scans.append (hout : Scans out scanner)
    (htext : text.toList.foldlM Scanner.step? scanner = some next) : Scans (out ++ text) next := by
  rw [Scans, String.toList_append, List.foldlM_append, hout]
  exact htext

theorem Scans.char {c : Char} (hout : Scans out scanner) (htext : text.toList = [c])
    (hstep : scanner.step? c = some next) : Scans (out ++ text) next := by
  apply hout.append
  rw [htext, List.foldlM_cons, hstep]
  rfl

theorem Builds.cons (htokens : Builds tokens builder) (hstep : builder.step? token = some after) :
    Builds (token :: tokens) after := by
  rw [Builds, List.reverse_cons, List.foldlM_append, htokens]
  show (builder.step? token >>= pure) = _
  rw [hstep]
  rfl

/-- The text ends between two tokens. -/
def Ready (out : String) (builder : Builder) : Prop :=
  exists tokens : List Token, Scans out { tokens, mode := .between } ∧ Builds tokens builder

/-- The text ends between two tokens, or with a number that may end there. -/
def Settled (out : String) (builder : Builder) : Prop :=
  Ready out builder ∨
    exists (tokens : List Token) (number finished : Number),
      Scans out { tokens, mode := .number number } ∧ number.finish? = some finished ∧
        Builds (.num finished :: tokens) builder

theorem Ready.settled (hout : Ready out builder) : Settled out builder :=
  Or.inl hout

theorem Ready.emit (hout : Ready out builder) (token : Token)
    (htext : forall tokens : List Token,
      text.toList.foldlM Scanner.step? { tokens, mode := .between } =
        some { tokens := token :: tokens, mode := .between })
    (hstep : builder.step? token = some after) : Ready (out ++ text) after := by
  rcases hout with ⟨tokens, hscans, hbuilds⟩
  exact ⟨token :: tokens, hscans.append (htext tokens), hbuilds.cons hstep⟩

theorem Ready.blank (hout : Ready out builder)
    (htext : forall tokens : List Token,
      text.toList.foldlM Scanner.step? { tokens, mode := .between } =
        some { tokens, mode := .between }) : Ready (out ++ text) builder := by
  rcases hout with ⟨tokens, hscans, hbuilds⟩
  exact ⟨tokens, hscans.append (htext tokens), hbuilds⟩

/-- A character that is no part of a number ends it. -/
theorem numberStep?_ends {number finished : Number} {c : Char} (tokens : List Token)
    (hdigit : Digit.ofChar? c = none) (hother : c ≠ '.' ∧ c ≠ 'e' ∧ c ≠ 'E')
    (hfinish : number.finish? = some finished) :
    Scanner.numberStep? tokens number c = Scanner.begin? (.num finished :: tokens) c := by
  have hpoint : (c == '.') = false := beq_eq_false_iff_ne.mpr hother.left
  have hmark : (c == 'e' || c == 'E') = false := by
    rw [beq_eq_false_iff_ne.mpr hother.right.left, beq_eq_false_iff_ne.mpr hother.right.right]
    rfl
  unfold Scanner.numberStep?
  simp only [hdigit, hpoint, hmark, hfinish, Bool.false_eq_true, if_false]

theorem Settled.ends (hout : Settled out builder) {c : Char} (htext : text.toList = [c])
    (hdigit : Digit.ofChar? c = none) (hother : c ≠ '.' ∧ c ≠ 'e' ∧ c ≠ 'E') :
    exists tokens : List Token, Builds tokens builder ∧
      forall next : Scanner, Scanner.begin? tokens c = some next -> Scans (out ++ text) next := by
  rcases hout with ⟨tokens, hscans, hbuilds⟩ | ⟨tokens, number, finished, hscans, hfinish, hbuilds⟩
  · exact ⟨tokens, hbuilds, fun next hnext => hscans.char htext hnext⟩
  · refine ⟨.num finished :: tokens, hbuilds, fun next hnext => hscans.char htext ?_⟩
    exact (numberStep?_ends tokens hdigit hother hfinish).trans hnext

theorem Settled.emit (hout : Settled out builder) (token : Token) {c : Char}
    (htext : text.toList = [c]) (hdigit : Digit.ofChar? c = none)
    (hother : c ≠ '.' ∧ c ≠ 'e' ∧ c ≠ 'E')
    (hbegin : forall tokens : List Token, Scanner.begin? tokens c = Scanner.emit tokens token)
    (hstep : builder.step? token = some after) : Ready (out ++ text) after := by
  rcases hout.ends htext hdigit hother with ⟨tokens, hbuilds, hscans⟩
  exact ⟨token :: tokens, hscans _ (hbegin tokens), hbuilds.cons hstep⟩

theorem Settled.lineEnd (hout : Settled out builder) : Ready (out ++ "\n") builder := by
  have htext : "\n".toList = ['\n'] := rfl
  rcases hout.ends htext (by decide) (by decide) with ⟨tokens, hbuilds, hscans⟩
  exact ⟨tokens, hscans _ rfl, hbuilds⟩

theorem Settled.newLine (hout : Settled out builder) (depth : Nat) :
    Ready (Json.newLine out depth) builder := by
  induction depth with
  | zero => exact hout.lineEnd
  | succ depth ih => exact ih.blank fun _ => rfl

theorem Settled.scan? (hout : Settled out builder) :
    exists tokens : List Token, Token.scan? out.toList = some tokens ∧
      tokens.foldlM Builder.step? .start = some builder := by
  rcases hout with ⟨tokens, hscans, hbuilds⟩ | ⟨tokens, number, finished, hscans, hfinish, hbuilds⟩
  · refine ⟨tokens.reverse, ?_, hbuilds⟩
    rw [Token.scan?, hscans]
    rfl
  · refine ⟨(Token.num finished :: tokens).reverse, ?_, hbuilds⟩
    rw [Token.scan?, hscans]
    show number.finish?.map _ = _
    rw [hfinish]
    rfl

/-!
# Strings
-/

theorem hexDigit?_hexChar (value : Fin 16) : hexDigit? (hexChar value.val) = some value.val := by
  revert value
  decide

theorem step?_code {c : Char} {digit : Nat} (hc : hexDigit? c = some digit) (tokens : List Token)
    (read : Option (List Char)) (high : Option Nat) (digits value : Nat) :
    Scanner.step? { tokens, mode := .code read high digits value } c =
      if digits == 3 then some { tokens, mode := Scanner.codeUnit read high (16 * value + digit) }
      else some { tokens, mode := .code read high (digits + 1) (16 * value + digit) } := by
  unfold Scanner.step?
  simp only [hc]

theorem codeUnit_of_lt (read : List Char) {c : Char} (hc : c.toNat < 0x20) :
    Scanner.codeUnit (some read) none c.toNat = .text (some (c :: read)) := by
  have hhigh : isHighSurrogate c.toNat = false := by
    simp only [isHighSurrogate, Bool.and_eq_false_iff, decide_eq_false_iff_not]
    omega
  have hlow : isLowSurrogate c.toNat = false := by
    simp only [isLowSurrogate, Bool.and_eq_false_iff, decide_eq_false_iff_not]
    omega
  simp only [Scanner.codeUnit, hhigh, hlow, Bool.false_eq_true, if_false, Option.map_some,
    Char.ofNat_toNat]

theorem scan_code (tokens : List Token) (read : List Char) {c : Char} (hc : c.toNat < 0x20) :
    ['\\', 'u', '0', '0', hexChar (c.toNat / 16), hexChar (c.toNat % 16)].foldlM Scanner.step?
        { tokens, mode := .text (some read) } =
      some { tokens, mode := .text (some (c :: read)) } := by
  have hhigh : hexDigit? (hexChar (c.toNat / 16)) = some (c.toNat / 16) :=
    hexDigit?_hexChar ⟨c.toNat / 16, by omega⟩
  have hlow : hexDigit? (hexChar (c.toNat % 16)) = some (c.toNat % 16) :=
    hexDigit?_hexChar ⟨c.toNat % 16, by omega⟩
  have hvalue : 16 * (16 * 0 + c.toNat / 16) + c.toNat % 16 = c.toNat := by
    omega
  show [hexChar (c.toNat / 16), hexChar (c.toNat % 16)].foldlM Scanner.step?
    { tokens, mode := .code (some read) none 2 0 } = _
  rw [List.foldlM_cons, step?_code hhigh]
  show [hexChar (c.toNat % 16)].foldlM Scanner.step?
    { tokens, mode := .code (some read) none 3 (16 * 0 + c.toNat / 16) } = _
  rw [List.foldlM_cons, step?_code hlow, hvalue, codeUnit_of_lt read hc]
  rfl

/-- A character is read back from the way it is written inside a string. -/
theorem scan_escape (tokens : List Token) (read : List Char) (c : Char) :
    (escape c).toList.foldlM Scanner.step? { tokens, mode := .text (some read) } =
      some { tokens, mode := .text (some (c :: read)) } := by
  unfold escape
  -- the seven characters with an escape of one letter
  iterate 7
    split
    · rename_i hc
      rw [beq_iff_eq.mp hc]
      rfl
  split
  · rename_i hc
    rw [String.toList_ofList]
    exact scan_code tokens read hc
  · rename_i hquote hbackslash _ _ _ _ _ hc
    rw [Char.toString_eq_singleton, String.toList_singleton, List.foldlM_cons]
    show (Scanner.textStep? tokens (some read) c >>= pure) = _
    unfold Scanner.textStep?
    rw [if_neg hquote, if_neg hbackslash, if_neg hc]
    rfl

theorem scans_writeString (hout : Scans out { tokens, mode := .between }) (text : String) :
    Scans (writeString out text) { tokens := .str text :: tokens, mode := .between } := by
  have hchars (chars read : List Char) {out : String}
      (hout : Scans out { tokens, mode := .text (some read) }) :
      Scans (chars.foldl (fun out c => out ++ escape c) out)
        { tokens, mode := .text (some (chars.reverse ++ read)) } := by
    induction chars generalizing read out with
    | nil => exact hout
    | cons c chars ih =>
        have hrest := ih (c :: read) (hout.append (scan_escape tokens read c))
        rw [List.foldl_cons, List.reverse_cons, List.append_assoc]
        exact hrest
  have hopen : Scans (out ++ "\"") { tokens, mode := .text (some []) } :=
    hout.append rfl
  have hread := hchars text.toList [] hopen
  rw [List.append_nil] at hread
  apply hread.append
  show some _ = _
  rw [Scanner.stringToken, List.reverse_reverse, String.ofList_toList]

/-!
# Numbers
-/

namespace Number

/-- The number as it is held while it is read, its digits reversed. -/
def reversed (number : Number) : Number where
  negative := number.negative
  whole := number.whole.reverse
  fraction := number.fraction.map List.reverse
  exponent := number.exponent.map fun (negative, digits) => (negative, digits.reverse)

theorem isComplete_reversed {number : Number} (hnumber : number.WellFormed) :
    number.reversed.isComplete = true := by
  rcases number with ⟨negative, whole, fraction, exponent⟩
  rcases hnumber with ⟨hwhole, _, hfraction, hexponent⟩
  rcases fraction with _ | digits <;> rcases exponent with _ | ⟨sign, power⟩ <;>
    simp_all [isComplete, reversed]

theorem finish?_reversed {number : Number} (hnumber : number.WellFormed) :
    number.reversed.finish? = some number := by
  rw [finish?, if_pos (isComplete_reversed hnumber)]
  rcases number with ⟨negative, whole, _ | digits, _ | ⟨sign, power⟩⟩ <;> simp [reversed]

theorem foldlM_whole {digits : List Digit} {number : Number}
    (hfraction : number.fraction = none) (hexponent : number.exponent = none)
    (hbegun : number.whole ≠ [])
    (hleading : number.whole = [Digit.zero] -> digits = []) :
    digits.foldlM digit? number = some { number with whole := digits.reverse ++ number.whole } := by
  induction digits generalizing number with
  | nil => rfl
  | cons digit digits ih =>
      have hstep : number.digit? digit = some { number with whole := digit :: number.whole } := by
        have hzero : number.whole ≠ [Digit.zero] := fun hwhole => nomatch hleading hwhole
        simp only [digit?, hfraction, hexponent, hzero, if_false]
      have hrest := @ih { number with whole := digit :: number.whole } hfraction hexponent nofun
        fun hwhole => absurd (List.cons.inj hwhole).right hbegun
      rw [List.foldlM_cons, hstep, List.reverse_cons, List.append_assoc]
      exact hrest

theorem foldlM_fraction (digits : List Digit) {before : List Digit} {number : Number}
    (hfraction : number.fraction = some before) (hexponent : number.exponent = none) :
    digits.foldlM digit? number =
      some { number with fraction := some (digits.reverse ++ before) } := by
  induction digits generalizing number before with
  | nil =>
      rw [List.reverse_nil, List.nil_append, ← hfraction]
      rfl
  | cons digit digits ih =>
      have hstep : number.digit? digit =
          some { number with fraction := some (digit :: before) } := by
        simp only [digit?, hfraction, hexponent]
      rw [List.foldlM_cons, hstep, List.reverse_cons, List.append_assoc]
      exact ih rfl hexponent

theorem foldlM_exponent (digits : List Digit) {before : List Digit} {negative : Bool}
    {number : Number} (hexponent : number.exponent = some (negative, before)) :
    digits.foldlM digit? number =
      some { number with exponent := some (negative, digits.reverse ++ before) } := by
  induction digits generalizing number before with
  | nil =>
      rw [List.reverse_nil, List.nil_append, ← hexponent]
      rfl
  | cons digit digits ih =>
      have hstep : number.digit? digit =
          some { number with exponent := some (negative, digit :: before) } := by
        simp only [digit?, hexponent]
      rw [List.foldlM_cons, hstep, List.reverse_cons, List.append_assoc]
      exact ih rfl

end Number

theorem Scans.digits {digits : List Digit} {number longer : Number}
    (hout : Scans out { tokens, mode := .number number })
    (hdigits : digits.foldlM Number.digit? number = some longer) :
    Scans (out ++ Digits.toText digits) { tokens, mode := .number longer } := by
  apply hout.append
  rw [Digits.toText, String.toList_ofList]
  clear hout
  induction digits generalizing number with
  | nil =>
      cases hdigits
      rfl
  | cons digit digits ih =>
      rw [List.foldlM_cons] at hdigits
      cases hstep : number.digit? digit with
      | none =>
          rw [hstep] at hdigits
          cases hdigits
      | some next =>
          rw [hstep] at hdigits
          rw [List.map_cons, List.foldlM_cons]
          have hnumber : Scanner.step? { tokens, mode := .number number } digit.toChar =
              some { tokens, mode := .number next } := by
            show Scanner.numberStep? tokens number digit.toChar = _
            unfold Scanner.numberStep?
            simp only [Digit.ofChar?_toChar, hstep, Option.map_some]
          rw [hnumber]
          exact ih hdigits

theorem begin?_digit (tokens : List Token) (digit : Digit) :
    Scanner.begin? tokens digit.toChar =
      some { tokens, mode := .number { Number.start false with whole := [digit] } } := by
  match digit with
  | 0 | 1 | 2 | 3 | 4 | 5 | 6 | 7 | 8 | 9 => rfl

theorem Scans.whole (hout : Scans out { tokens, mode := .between }) {number : Number}
    (hnumber : number.WellFormed) :
    Scans (out ++ (if number.negative then "-" else "") ++ Digits.toText number.whole)
      ⟨tokens, .number { Number.start number.negative with whole := number.whole.reverse }⟩ := by
  rcases hwhole : number.whole with _ | ⟨first, rest⟩
  · exact absurd hwhole hnumber.whole
  have hrest : rest.foldlM Number.digit? { Number.start number.negative with whole := [first] } =
      some { Number.start number.negative with whole := rest.reverse ++ [first] } := by
    apply Number.foldlM_whole rfl rfl (List.cons_ne_nil first [])
    intro hzero
    exact hnumber.leading rest (hwhole.trans (by rw [(List.cons.inj hzero).left]))
  have htext : Digits.toText (first :: rest) = Digits.toText [first] ++ Digits.toText rest := by
    rw [← String.toList_inj]
    simp [Digits.toText]
  rw [htext, ← String.append_assoc, List.reverse_cons]
  -- without a sign the number begins with its first digit
  apply Scans.digits _ hrest
  cases number.negative with
  | true =>
      have hsign : Scans (out ++ "-") { tokens, mode := .number (Number.start true) } :=
        hout.append rfl
      exact hsign.digits rfl
  | false =>
      have hempty : out ++ "" = out := String.append_empty
      rw [if_neg Bool.false_ne_true, hempty]
      exact hout.char String.toList_ofList (begin?_digit tokens first)

theorem Scans.fraction {number : Number} (fraction : Option (List Digit))
    (hout : Scans out { tokens, mode := .number number }) (hcomplete : number.isComplete = true)
    (hfraction : number.fraction = none) (hexponent : number.exponent = none) :
    Scans
      (out ++ match fraction with
        | some digits => "." ++ Digits.toText digits
        | none => "")
      { tokens, mode := .number { number with fraction := fraction.map List.reverse } } := by
  cases fraction with
  | none =>
      have hempty : out ++ "" = out := String.append_empty
      rw [hempty, Option.map_none, ← hfraction]
      exact hout
  | some digits =>
      have hpoint : Scans (out ++ ".")
          { tokens, mode := .number { number with fraction := some [] } } := by
        apply hout.char rfl
        show Scanner.numberStep? tokens number '.' = _
        unfold Scanner.numberStep?
        have hdot : Digit.ofChar? '.' = none := by decide
        simp only [hdot, beq_self_eq_true, if_true, Number.point?, hcomplete, hfraction, hexponent,
          Option.isNone_none, Bool.and_self, Option.map_some]
      have hdigits := hpoint.digits (Number.foldlM_fraction digits rfl hexponent)
      simp only [← String.append_assoc]
      rw [Option.map_some]
      rw [List.append_nil] at hdigits
      exact hdigits

theorem Scans.exponent {number : Number} (exponent : Option (Bool × List Digit))
    (hout : Scans out { tokens, mode := .number number }) (hcomplete : number.isComplete = true)
    (hexponent : number.exponent = none) :
    Scans
      (out ++ match exponent with
        | some (negative, digits) => (if negative then "e-" else "e+") ++ Digits.toText digits
        | none => "")
      ⟨tokens, .number
        { number with
          exponent := exponent.map fun (negative, digits) => (negative, digits.reverse) }⟩ := by
  rcases exponent with _ | ⟨negative, digits⟩
  · have hempty : out ++ "" = out := String.append_empty
    rw [hempty, Option.map_none, ← hexponent]
    exact hout
  · have hmark : Scanner.numberStep? tokens number 'e' =
        some { tokens, mode := .marked { number with exponent := some (false, []) } } := by
      have hletter : Digit.ofChar? 'e' = none := by decide
      have hpoint : ('e' == '.') = false := by decide
      unfold Scanner.numberStep?
      simp only [hletter, hpoint, beq_self_eq_true, Bool.true_or, Bool.false_eq_true, if_false,
        if_true, Number.mark?, hcomplete, hexponent, Option.isNone_none, Bool.and_self,
        Option.map_some]
    have hsign : Scans (out ++ (if negative then "e-" else "e+"))
        ⟨tokens, .number { number with exponent := some (negative, []) }⟩ := by
      apply hout.append
      cases negative with
      | true =>
          show (Scanner.numberStep? tokens number 'e' >>= fun scanner =>
            ['-'].foldlM Scanner.step? scanner) = _
          rw [hmark]
          rfl
      | false =>
          show (Scanner.numberStep? tokens number 'e' >>= fun scanner =>
            ['+'].foldlM Scanner.step? scanner) = _
          rw [hmark]
          rfl
    have hdigits := hsign.digits (Number.foldlM_exponent digits rfl)
    rw [List.append_nil] at hdigits
    rw [← String.append_assoc]
    exact hdigits

theorem Scans.number (hout : Scans out { tokens, mode := .between }) {number : Number}
    (hnumber : number.WellFormed) :
    Scans (out ++ number.toText) { tokens, mode := .number number.reversed } := by
  have hwhole := hout.whole hnumber
  have hshort : Number.WellFormed { number with fraction := none, exponent := none } :=
    ⟨hnumber.whole, hnumber.leading, nofun, nofun⟩
  have hlong : Number.WellFormed { number with exponent := none } :=
    ⟨hnumber.whole, hnumber.leading, hnumber.fraction, nofun⟩
  have hfraction := hwhole.fraction number.fraction (Number.isComplete_reversed hshort) rfl rfl
  have hexponent := hfraction.exponent number.exponent (Number.isComplete_reversed hlong) rfl
  rw [Number.toText]
  simp only [← String.append_assoc]
  exact hexponent

/-!
# Values
-/

namespace Builder

/-- Any value may come next. -/
def Awaits (builder : Builder) : Prop :=
  builder.expected = .value ∨ builder.expected = .valueOrClose

theorem Awaits.step? (hbuilder : builder.Awaits) (token : Token) (htoken : token ≠ .closeArray) :
    builder.step? token = value? builder.frames token := by
  rcases builder with ⟨frames, expected, result⟩
  rcases hbuilder with rfl | rfl
  · rfl
  · cases token with
    | closeArray => exact absurd rfl htoken
    | _ => rfl

/-- A key may come next. -/
def AwaitsKey (builder : Builder) : Prop :=
  builder.expected = .key ∨ builder.expected = .keyOrClose

theorem AwaitsKey.step? (hbuilder : builder.AwaitsKey) (key : String) :
    builder.step? (.str key) = keyed? builder.frames (some key) := by
  rcases builder with ⟨frames, expected, result⟩
  rcases hbuilder with rfl | rfl
  · rfl
  · rfl

end Builder

/-- Writing the value hands it to the innermost bracket. -/
def Written (write : String -> Json -> String) (value : Json) : Prop :=
  forall (out : String) (builder after : Builder), Ready out builder -> builder.Awaits ->
    Builder.deliver? builder.frames value = some after -> Settled (write out value) after

theorem Ready.string (hout : Ready out builder) {text : String}
    (hstep : builder.step? (.str text) = some after) : Ready (writeString out text) after := by
  rcases hout with ⟨tokens, hscans, hbuilds⟩
  exact ⟨.str text :: tokens, scans_writeString hscans text, hbuilds.cons hstep⟩

theorem written_null : Written write .null := by
  intro out builder after hout hbuilder hdeliver
  have hstep := (hbuilder.step? .null nofun).trans hdeliver
  exact (hout.emit .null (fun _ => rfl) hstep).settled

theorem written_bool (value : Bool) : Written write (.bool value) := by
  intro out builder after hout hbuilder hdeliver
  have hstep := (hbuilder.step? (.bool value) nofun).trans hdeliver
  cases value with
  | true => exact (hout.emit (.bool true) (fun _ => rfl) hstep).settled
  | false => exact (hout.emit (.bool false) (fun _ => rfl) hstep).settled

theorem written_num {number : Number} (hnumber : number.WellFormed) :
    Written write (.num number) := by
  intro out builder after hout hbuilder hdeliver
  rcases hout with ⟨tokens, hscans, hbuilds⟩
  have hstep := (hbuilder.step? (.num number) nofun).trans hdeliver
  exact Or.inr ⟨tokens, number.reversed, number, hscans.number hnumber,
    Number.finish?_reversed hnumber, hbuilds.cons hstep⟩

theorem written_str (text : String) : Written write (.str text) := by
  intro out builder after hout hbuilder hdeliver
  exact (hout.string ((hbuilder.step? (.str text) nofun).trans hdeliver)).settled

theorem written_malformed : Written write .malformed := by
  intro out builder after hout hbuilder hdeliver
  have hstep := (hbuilder.step? .malformed nofun).trans hdeliver
  exact (hout.emit .malformed (fun _ => rfl) hstep).settled

/-!
# Brackets
-/

/-- Write items with commas between them. -/
def separated {α : Type} (write : String -> α -> String) (out : String) : List α -> String
  | [] => out
  | [item] => write out item
  | item :: rest => separated write (write out item ++ ",") rest

theorem eq_separated {α : Type} {write : String -> α -> String}
    {list : String -> List α -> String} (hnil : forall out : String, list out [] = out)
    (hone : forall (out : String) (item : α), list out [item] = write out item)
    (hmore : forall (out : String) (item second : α) (rest : List α),
      list out (item :: second :: rest) = list (write out item ++ ",") (second :: rest))
    (out : String) (items : List α) : list out items = separated write out items := by
  induction items generalizing out with
  | nil => exact hnil out
  | cons item rest ih =>
      cases rest with
      | nil => exact hone out item
      | cons second rest =>
          rw [hmore, ih]
          rfl

theorem Ready.openArray (hout : Ready out builder) (hbuilder : builder.Awaits) :
    Ready (out ++ "[") ⟨.array [] :: builder.frames, .valueOrClose, none⟩ :=
  hout.emit .openArray (fun _ => rfl) (hbuilder.step? .openArray nofun)

theorem Ready.openObject (hout : Ready out builder) (hbuilder : builder.Awaits) :
    Ready (out ++ "\x7b") ⟨.object (some []) :: builder.frames, .keyOrClose, none⟩ :=
  hout.emit .openObject (fun _ => rfl) (hbuilder.step? .openObject nofun)

theorem Ready.emptyArray (hout : Ready out builder) (hbuilder : builder.Awaits)
    (hdeliver : Builder.deliver? builder.frames (.arr []) = some after) :
    Ready (out ++ "[" ++ "]") after :=
  (hout.openArray hbuilder).emit .closeArray (fun _ => rfl) hdeliver

theorem Ready.emptyObject (hout : Ready out builder) (hbuilder : builder.Awaits)
    (hdeliver : Builder.deliver? builder.frames (.obj []) = some after) :
    Ready (out ++ "\x7b" ++ "\x7d") after :=
  (hout.openObject hbuilder).emit .closeObject (fun _ => rfl) hdeliver

/-- An item takes what is open to what is done, and a comma opens it again. -/
theorem settled_separated {α : Type} {write : String -> α -> String} {items : List α}
    (isOpen : List α -> Builder -> Prop) (done : List α -> Builder)
    (hitem : forall item : α, item ∈ items ->
      forall (before : List α) (builder : Builder) (out : String), isOpen before builder ->
        Ready out builder -> Settled (write out item) (done (item :: before)))
    (hcomma : forall before : List α,
      exists builder : Builder, (done before).step? .comma = some builder ∧ isOpen before builder)
    (hitems : items ≠ []) {before : List α} (hopen : isOpen before builder)
    (hout : Ready out builder) :
    Settled (separated write out items) (done (items.reverse ++ before)) := by
  -- on the items, with the builder left open: it starts at the bracket or after a comma
  induction items generalizing before builder out with
  | nil => exact absurd rfl hitems
  | cons item rest ih =>
      have hfirst := hitem item List.mem_cons_self before builder out hopen hout
      cases rest with
      | nil => exact hfirst
      | cons second rest =>
          rcases hcomma (item :: before) with ⟨next, hstep, hnext⟩
          have hready : Ready (write out item ++ ",") next :=
            hfirst.emit .comma rfl (by decide) (by decide) (fun _ => rfl) hstep
          have hrest := ih (fun other hother => hitem other (List.mem_cons_of_mem item hother))
            (List.cons_ne_nil second rest) hnext hready
          rw [separated, List.reverse_cons, List.append_assoc]
          · exact hrest
          · exact List.cons_ne_nil second rest

section

variable {write : String -> Json -> String} {lead : String -> String}
  (hlead : forall {out : String} {builder : Builder}, Ready out builder -> Ready (lead out) builder)
  (hout : Ready out builder) (hbuilder : builder.Awaits)

include hlead hout hbuilder

/-- An array is written if its items are. -/
theorem settled_array {items : List Json}
    (hitem : forall item : Json, item ∈ items -> Written write item) (hitems : items ≠ []) :
    Settled (separated (fun out item => write (lead out) item) (out ++ "[") items)
      { frames := .array items.reverse :: builder.frames
        expected := .separator
        result := none } := by
  rw [← List.append_nil items.reverse]
  refine settled_separated
    (fun before next => next.frames = .array before :: builder.frames ∧ next.Awaits)
    (fun before => ⟨.array before :: builder.frames, .separator, none⟩)
    ?_ ?_ hitems ⟨rfl, Or.inr rfl⟩ (hout.openArray hbuilder)
  · intro item hmem before next out hopen hout
    apply hitem item hmem (lead out) next _ (hlead hout) hopen.right
    rw [hopen.left]
    rfl
  · intro before
    exact ⟨_, rfl, rfl, Or.inl rfl⟩

/-- An object is written if the values of its fields are. -/
theorem settled_object {fields : List (String × Json)} (colon : String)
    (hcolon : forall tokens : List Token,
      colon.toList.foldlM Scanner.step? { tokens, mode := .between } =
        some { tokens := .colon :: tokens, mode := .between })
    (hfield : forall field : String × Json, field ∈ fields -> Written write field.2)
    (hfields : fields ≠ []) :
    Settled
      (separated (fun out field => write (writeString (lead out) field.1 ++ colon) field.2)
        (out ++ "\x7b") fields)
      { frames := .object (some fields.reverse) :: builder.frames
        expected := .separator
        result := none } := by
  rw [← List.append_nil fields.reverse]
  refine settled_separated
    (fun before next => next.frames = .object (some before) :: builder.frames ∧ next.AwaitsKey)
    (fun before => ⟨.object (some before) :: builder.frames, .separator, none⟩)
    ?_ ?_ hfields ⟨rfl, Or.inr rfl⟩ (hout.openObject hbuilder)
  · intro field hmem before next out hopen hout
    have hkey : Ready (writeString (lead out) field.1)
        ⟨.keyed (some before) (some field.1) :: builder.frames, .colon, none⟩ := by
      apply (hlead hout).string
      rw [hopen.right.step?, hopen.left]
      rfl
    exact hfield field hmem _ _ _ (hkey.emit .colon hcolon rfl) (Or.inl rfl) rfl
  · intro before
    exact ⟨_, rfl, rfl, Or.inl rfl⟩

end

theorem Settled.closeArray {frames : List Frame} {items : List Json}
    (hout : Settled out
      { frames := .array items.reverse :: frames, expected := .separator, result := none })
    (hdeliver : Builder.deliver? frames (.arr items) = some after) : Ready (out ++ "]") after := by
  apply hout.emit .closeArray rfl (by decide) (by decide) (fun _ => rfl)
  show Builder.deliver? frames (.arr items.reverse.reverse) = _
  rw [List.reverse_reverse]
  exact hdeliver

theorem Settled.closeObject {frames : List Frame} {fields : List (String × Json)}
    (hout : Settled out
      { frames := .object (some fields.reverse) :: frames
        expected := .separator
        result := none })
    (hdeliver : Builder.deliver? frames (.obj fields) = some after) :
    Ready (out ++ "\x7d") after := by
  apply hout.emit .closeObject rfl (by decide) (by decide) (fun _ => rfl)
  show Builder.deliver? frames (.obj fields.reverse.reverse) = _
  rw [List.reverse_reverse]
  exact hdeliver

/-!
# Both layouts
-/

theorem writeItems_eq_separated (out : String) (items : List Json) :
    writeItems out items = separated write out items :=
  eq_separated (fun _ => rfl) (fun _ _ => rfl) (fun _ _ _ _ => rfl) out items

theorem writeFields_eq_separated (out : String) (fields : List (String × Json)) :
    writeFields out fields =
      separated (fun out field => write (writeString out field.1 ++ ":") field.2) out fields :=
  eq_separated (fun _ => rfl) (fun _ _ => rfl) (fun _ _ _ _ => rfl) out fields

theorem writePrettyItems_eq_separated (depth : Nat) (out : String) (items : List Json) :
    writePrettyItems depth out items =
      separated (fun out item => writePretty depth (newLine out depth) item) out items :=
  eq_separated (fun _ => rfl) (fun _ _ => rfl) (fun _ _ _ _ => rfl) out items

theorem writePrettyFields_eq_separated (depth : Nat) (out : String)
    (fields : List (String × Json)) :
    writePrettyFields depth out fields =
      separated
        (fun out field =>
          writePretty depth (writeString (newLine out depth) field.1 ++ ": ") field.2)
        out fields :=
  eq_separated (fun _ => rfl) (fun _ _ => rfl) (fun _ _ _ _ => rfl) out fields

/-- Every value is written in the compact layout. -/
theorem written_write {value : Json} (hvalue : value.Spelled) : Written write value := by
  induction hvalue with
  | null => exact written_null
  | bool value => exact written_bool value
  | num hnumber => exact written_num hnumber
  | str text => exact written_str text
  | malformed => exact written_malformed
  | @arr items _ ih =>
      intro out builder after hout hbuilder hdeliver
      rw [write, writeItems_eq_separated]
      cases items with
      | nil => exact (hout.emptyArray hbuilder hdeliver).settled
      | cons item rest =>
          have hitems := settled_array id hout hbuilder ih (List.cons_ne_nil item rest)
          exact (hitems.closeArray hdeliver).settled
  | @obj fields _ ih =>
      intro out builder after hout hbuilder hdeliver
      rw [write, writeFields_eq_separated]
      cases fields with
      | nil => exact (hout.emptyObject hbuilder hdeliver).settled
      | cons field rest =>
          have hfields := settled_object id hout hbuilder ":" (fun _ => rfl) ih
            (List.cons_ne_nil field rest)
          exact (hfields.closeObject hdeliver).settled

/-- Every value is written in the pretty layout, at any depth. -/
theorem written_writePretty {value : Json} (hvalue : value.Spelled) (depth : Nat) :
    Written (writePretty depth) value := by
  induction hvalue generalizing depth with
  | null => exact written_null
  | bool value =>
      cases value with
      | true => exact written_bool true
      | false => exact written_bool false
  | num hnumber => exact written_num hnumber
  | str text => exact written_str text
  | malformed => exact written_malformed
  | @arr items _ ih =>
      intro out builder after hout hbuilder hdeliver
      cases items with
      | nil =>
          have htext : out ++ "[]" = out ++ "[" ++ "]" := by
            rw [String.append_assoc]
            rfl
          rw [writePretty, htext]
          exact (hout.emptyArray hbuilder hdeliver).settled
      | cons item rest =>
          -- each item stands on a line of its own, one level deeper
          have hitems := settled_array (fun h => h.settled.newLine (depth + 1)) hout hbuilder
            (fun item hitem => ih item hitem (depth + 1)) (List.cons_ne_nil item rest)
          rw [writePretty, writePrettyItems_eq_separated]
          · exact ((hitems.newLine depth).settled.closeArray hdeliver).settled
          · exact List.cons_ne_nil item rest
  | @obj fields _ ih =>
      intro out builder after hout hbuilder hdeliver
      cases fields with
      | nil =>
          have htext : out ++ "\x7b\x7d" = out ++ "\x7b" ++ "\x7d" := by
            rw [String.append_assoc]
            rfl
          rw [writePretty, htext]
          exact (hout.emptyObject hbuilder hdeliver).settled
      | cons field rest =>
          have hfields := settled_object (fun h => h.settled.newLine (depth + 1)) hout hbuilder
            ": " (fun _ => rfl) (fun field hfield => ih field hfield (depth + 1))
            (List.cons_ne_nil field rest)
          rw [writePretty, writePrettyFields_eq_separated]
          · exact ((hfields.newLine depth).settled.closeObject hdeliver).settled
          · exact List.cons_ne_nil field rest

theorem ready_empty : Ready "" .start :=
  ⟨[], rfl, rfl⟩

theorem Settled.parse? {value : Json}
    (hout : Settled out { frames := [], expected := .separator, result := some value }) :
    parse? out = some value := by
  rcases hout.scan? with ⟨tokens, hscan, hbuild⟩
  rw [Json.parse?, hscan]
  show (tokens.foldlM Builder.step? .start).bind Builder.result = _
  rw [hbuild]
  rfl

theorem parse?_compact {value : Json} (hvalue : value.Spelled) :
    parse? value.compact = some value := by
  have hwritten := written_write hvalue "" .start _ ready_empty (Or.inl rfl) rfl
  exact hwritten.parse?

theorem parse?_pretty {value : Json} (hvalue : value.Spelled) :
    parse? (value.pretty ++ "\n") = some value := by
  have hwritten := written_writePretty hvalue 0 "" .start _ ready_empty (Or.inl rfl) rfl
  exact hwritten.lineEnd.settled.parse?

end Json
end QueryTree
