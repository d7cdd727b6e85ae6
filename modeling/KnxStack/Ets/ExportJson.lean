import Mathlib.Data.List.Forall2
import KnxStack.Application.Dpt
import KnxStack.Ets.ParameterCatalogue
import KnxStack.Lib.JsonText

/-!
# The product export

`exportDescriptorToJson` writes the descriptor of a product as the JSON text that the catalogue
generator reads. Labels, units and section names go through `jsonEscape`; the keys, the display names
and the order number are written as they are. The text is that of a template (`render_document`), so
it is faithful exactly where these need no escape and the numbers that it prints are finite
(`faithful_iff`).

Text is a list of characters; what the source looks at are the octets of its UTF-8 form, and only
those of ASCII characters are treated apart. A `double` is modelled by what `%.9g` rounds it to.
-/

set_option autoImplicit false

namespace KnxStack.Ets.ExportJson

open KnxStack.Lib.JsonText
open KnxStack.Application (DptId DptValueType)

/-! ## The descriptor -/

inductive Medium where
  | tp1
  | ipTunneling
  | ipRouting
  | ipSecureTunneling
  deriving DecidableEq

inductive ExportSecurityRequirement where
  | none
  | auth
  | authAndConf
  deriving DecidableEq

def exportSecurityRequirementName : ExportSecurityRequirement → Text
  | .auth => "Auth".toList
  | .authAndConf => "AuthAndConf".toList
  | .none => "None".toList

/-- A finite `double` to nine significant digits: the coefficient has nine digits, and its first is
the one at `10 ^ exponent`. -/
structure Decimal where
  negative : Bool
  coefficient : Nat
  exponent : Int
  normal : coefficient = 0 ∧ exponent = 0 ∨ 10 ^ 8 ≤ coefficient ∧ coefficient < 10 ^ 9

inductive Double where
  | finite (value : Decimal)
  | infinity (negative : Bool)
  | notANumber (negative : Bool)

def Double.IsFinite : Double → Prop
  | .finite _ => True
  | _ => False

/-- `x != 0.0`, which holds of what is not a number too. -/
def Double.isNonzero : Double → Bool
  | .finite value => value.coefficient != 0
  | _ => true

structure ExportApplicationProgramIdentity where
  applicationNumber : UInt16
  applicationVersion : UInt16

structure ExportProductIdentity where
  profileKey : Text
  productDisplayName : Text
  manufacturerId : UInt16
  medium : Medium
  applicationProgram : ExportApplicationProgramIdentity
  hardwareSerialNumber : UInt16
  hardwareVersion : UInt8
  orderNumber : Text

structure ExportFeatureFlags where
  persistenceEnabled : Bool
  securityCapable : Bool
  readResponsesEnabled : Bool
  diagnosticsEnabled : Bool

structure ExportSecurityDescriptor where
  dataSecureCapable : Bool
  groupObjectRequirement : ExportSecurityRequirement
  individualAddressEntries : UInt16
  groupKeyTableEntries : UInt16
  p2pKeyTableEntries : UInt16

structure ExportCapacities where
  datapointCount : Nat
  groupAddressCapacity : Nat
  datapointLinkCapacity : Nat
  autoResponseQueueCapacity : Nat
  transmissionOutcomeQueueCapacity : Nat

structure ExportCommunicationObjectDescriptor where
  exportNumber : UInt16
  logicalId : UInt16
  key : Text
  displayName : Text
  defaultAddress : UInt16
  dpt : DptId
  valueType : DptValueType
  readable : Bool
  writable : Bool
  transmit : Bool
  receivable : Bool
  persisted : Bool
  readOnInit : Bool
  communication : Bool

structure ExportParameterOption where
  value : Int64
  label : Text

abbrev kMaxExportParameterOptions : Nat := 24

structure ExportParameterDescriptor where
  id : UInt16
  key : Text
  displayName : Text
  valueKind : ExportParameterValueKind
  required : Bool
  defaultValue : Double
  options : Vector ExportParameterOption kMaxExportParameterOptions
  optionCount : Nat
  minValue : Double
  maxValue : Double
  unit : Text
  group : Text
  visibleWhenParameterId : UInt16
  visibleWhenValue : Int64
  groupVisibleWhenParameterId : UInt16
  groupVisibleWhenValue : Int64
  optionCount_le : optionCount ≤ kMaxExportParameterOptions

/-- `StaticExportDescriptor`; the sizes of the two arrays are its template arguments. -/
structure StaticExportDescriptor where
  identity : ExportProductIdentity
  features : ExportFeatureFlags
  security : ExportSecurityDescriptor
  capacities : ExportCapacities
  communicationObjects : List ExportCommunicationObjectDescriptor
  parameters : List ExportParameterDescriptor

/-- The options that the parameter declares. -/
def ExportParameterDescriptor.declared (p : ExportParameterDescriptor) : List ExportParameterOption :=
  p.options.toList.take p.optionCount

/-! ## Numbers on a stream -/

def dropTrailingZeros (digits : Text) : Text :=
  (digits.reverse.dropWhile (· == '0')).reverse

def fractionText (digits : Text) : Text :=
  if digits = [] then [] else '.' :: digits

/-- Two digits at least. -/
def exponentText (exponent : Int) : Text :=
  'e' :: (if exponent < 0 then '-' else '+') ::
    if exponent.natAbs < 10 then '0' :: natText exponent.natAbs else natText exponent.natAbs

/-- `%.9g`: plain notation for exponents from -4 to 8, no zeros at the end of the fraction. -/
def Decimal.unsignedText (x : Decimal) : Text :=
  let digits := natText x.coefficient
  if -4 ≤ x.exponent ∧ x.exponent < 9 then
    if 0 ≤ x.exponent then
      digits.take (x.exponent.toNat + 1) ++
        fractionText (dropTrailingZeros (digits.drop (x.exponent.toNat + 1)))
    else
      ['0'] ++ fractionText (dropTrailingZeros (List.replicate (-x.exponent - 1).toNat '0' ++ digits))
  else
    digits.take 1 ++ (fractionText (dropTrailingZeros (digits.drop 1)) ++ exponentText x.exponent)

def signed (negative : Bool) (text : Text) : Text :=
  (if negative then ['-'] else []) ++ text

/-- `o << std::setprecision(9) << x`. -/
def Double.text : Double → Text
  | .finite value => signed value.negative value.unsignedText
  | .infinity negative => signed negative ['i', 'n', 'f']
  | .notANumber negative => signed negative ['n', 'a', 'n']

/-! ## The exporter -/

/-- `%04x`. -/
def hex4 (n : Nat) : Text :=
  List.leftpad 4 '0' (Nat.toDigits 16 n)

def escapeChar (c : Char) : Text :=
  if c = '"' then ['\\', '"']
  else if c = '\\' then ['\\', '\\']
  else if c = '\n' then ['\\', 'n']
  else if c = '\r' then ['\\', 'r']
  else if c = '\t' then ['\\', 't']
  else if c.toNat < 0x20 then '\\' :: 'u' :: hex4 c.toNat
  else [c]

def jsonEscape (s : Text) : Text :=
  s.flatMap escapeChar

/-- `"name":`, as the literals of the source spell it. -/
def label (name : String) : Text :=
  '"' :: (name.toList ++ ['"', ':'])

/-- `"text"`, with nothing escaped. -/
def inQuotes (text : Text) : Text :=
  '"' :: (text ++ ['"'])

def identityText (d : ExportProductIdentity) : Text :=
  [['{'],
    label "profileKey", inQuotes d.profileKey, [','],
    label "productDisplayName", inQuotes d.productDisplayName, [','],
    label "manufacturerId", natText d.manufacturerId.toNat, [','],
    label "medium", natText d.medium.ctorIdx, [','],
    label "applicationProgram", ['{'],
    label "number", natText d.applicationProgram.applicationNumber.toNat, [','],
    label "version", natText d.applicationProgram.applicationVersion.toNat, ['}', ','],
    label "hardwareSerialNumber", natText d.hardwareSerialNumber.toNat, [','],
    label "hardwareVersion", natText d.hardwareVersion.toNat, [','],
    label "orderNumber", inQuotes d.orderNumber, ['}']].flatten

def featuresText (d : ExportFeatureFlags) : Text :=
  [['{'],
    label "persistenceEnabled", boolText d.persistenceEnabled, [','],
    label "securityCapable", boolText d.securityCapable, [','],
    label "readResponsesEnabled", boolText d.readResponsesEnabled, [','],
    label "diagnosticsEnabled", boolText d.diagnosticsEnabled, ['}']].flatten

def securityText (d : ExportSecurityDescriptor) : Text :=
  [['{'],
    label "dataSecureCapable", boolText d.dataSecureCapable, [','],
    label "groupObjectRequirement",
    inQuotes (exportSecurityRequirementName d.groupObjectRequirement), [','],
    label "individualAddressEntries", natText d.individualAddressEntries.toNat, [','],
    label "groupKeyTableEntries", natText d.groupKeyTableEntries.toNat, [','],
    label "p2pKeyTableEntries", natText d.p2pKeyTableEntries.toNat, ['}']].flatten

def capacitiesText (d : ExportCapacities) : Text :=
  [['{'],
    label "groupObjectCount", natText d.datapointCount, [','],
    label "addressTableEntries", natText d.groupAddressCapacity, [','],
    label "associationEntries", natText d.datapointLinkCapacity, [','],
    label "autoResponseQueueCapacity", natText d.autoResponseQueueCapacity, [','],
    label "transmissionOutcomeQueueCapacity", natText d.transmissionOutcomeQueueCapacity, ['}']].flatten

def communicationObjectText (c : ExportCommunicationObjectDescriptor) : Text :=
  [['{'],
    label "exportNumber", natText c.exportNumber.toNat, [','],
    label "logicalId", natText c.logicalId.toNat, [','],
    label "key", inQuotes c.key, [','],
    label "displayName", inQuotes c.displayName, [','],
    label "defaultAddress", natText c.defaultAddress.toNat, [','],
    label "dpt_main", natText c.dpt.main.number.toNat, [','],
    label "dpt_sub", natText c.dpt.sub.toNat, [','],
    label "valueType", natText c.valueType.ctorIdx, [','],
    label "readable", boolText c.readable, [','],
    label "writable", boolText c.writable, [','],
    label "transmit", boolText c.transmit, [','],
    label "receivable", boolText c.receivable, [','],
    label "readOnInit", boolText c.readOnInit, [','],
    label "communication", boolText c.communication, [','],
    label "persisted", boolText c.persisted, ['}']].flatten

def optionText (x : ExportParameterOption) : Text :=
  [['{'], label "value", intText x.value.toInt, [','], label "label", inQuotes (jsonEscape x.label),
    ['}']].flatten

/-- The list of options, with the comma in front of it. -/
def optionsText (p : ExportParameterDescriptor) : Text :=
  if 0 < p.optionCount then
    [[','], label "options", ['['], commaSeparated (p.declared.map optionText), [']']].flatten
  else []

def rangeText (p : ExportParameterDescriptor) : Text :=
  if p.minValue.isNonzero || p.maxValue.isNonzero then
    [[','], label "minValue", p.minValue.text, [','], label "maxValue", p.maxValue.text].flatten
  else []

/-- A text that is written when it is not empty. -/
def escapedText (name : String) (text : Text) : Text :=
  if text.isEmpty then [] else [[','], label name, inQuotes (jsonEscape text)].flatten

/-- A condition that is written when there is one. -/
def conditionText (idName valueName : String) (parameterId : UInt16) (value : Int64) : Text :=
  if parameterId = 0xFFFF then []
  else
    [[','], label idName, natText parameterId.toNat, [','],
      label valueName, intText value.toInt].flatten

def parameterText (p : ExportParameterDescriptor) : Text :=
  [['{'],
    label "id", natText p.id.toNat, [','],
    label "key", inQuotes p.key, [','],
    label "displayName", inQuotes p.displayName, [','],
    label "valueKind", natText p.valueKind.ctorIdx, [','],
    label "required", boolText p.required, [','],
    label "defaultValue", p.defaultValue.text,
    optionsText p,
    rangeText p,
    escapedText "unit" p.unit,
    escapedText "group" p.group,
    conditionText "visibleWhenParameterId" "visibleWhenValue" p.visibleWhenParameterId
      p.visibleWhenValue,
    conditionText "groupVisibleWhenParameterId" "groupVisibleWhenValue" p.groupVisibleWhenParameterId
      p.groupVisibleWhenValue,
    ['}']].flatten

/-- The loops of the source write a comma in front of every entry but the first. -/
def exportDescriptorToJson (d : StaticExportDescriptor) : Text :=
  [['{'],
    label "identity", identityText d.identity, [','],
    label "features", featuresText d.features, [','],
    label "security", securityText d.security, [','],
    label "capacities", capacitiesText d.capacities, [','],
    label "communicationObjects", [' ', '['],
    commaSeparated (d.communicationObjects.map communicationObjectText), [']', ','],
    label "parameters", [' ', '['],
    commaSeparated (d.parameters.map parameterText), [']', '}']].flatten

/-! ## Faithful exports -/

/-- The text is there under the name; an empty one may be left out. -/
def TextBack (j : Json) (name : String) (text : Text) : Prop :=
  j.Field name.toList (· = .string text)

def EscapedBack (j : Json) (name : String) (text : Text) : Prop :=
  if text = [] then j.Lacks name.toList else TextBack j name text

def IdentityBack (d : ExportProductIdentity) (j : Json) : Prop :=
  TextBack j "profileKey" d.profileKey ∧ TextBack j "productDisplayName" d.productDisplayName ∧
    TextBack j "orderNumber" d.orderNumber

def CommunicationObjectBack (c : ExportCommunicationObjectDescriptor) (j : Json) : Prop :=
  TextBack j "key" c.key ∧ TextBack j "displayName" c.displayName

def OptionBack (x : ExportParameterOption) (j : Json) : Prop :=
  TextBack j "label" x.label

def OptionsBack (options : List ExportParameterOption) (j : Json) : Prop :=
  if options = [] then j.Lacks "options".toList
  else j.Field "options".toList fun list => list.Elements options OptionBack

def ParameterBack (p : ExportParameterDescriptor) (j : Json) : Prop :=
  TextBack j "key" p.key ∧ TextBack j "displayName" p.displayName ∧ OptionsBack p.declared j ∧
    EscapedBack j "unit" p.unit ∧ EscapedBack j "group" p.group

/-- Every string of the descriptor is found where the document has its field. -/
def StringsBack (d : StaticExportDescriptor) (j : Json) : Prop :=
  j.Field "identity".toList (IdentityBack d.identity) ∧
    (j.Field "communicationObjects".toList fun list =>
      list.Elements d.communicationObjects CommunicationObjectBack) ∧
    j.Field "parameters".toList fun list => list.Elements d.parameters ParameterBack

/-- The export parses, and what was parsed has the strings of the descriptor. -/
def Faithful (d : StaticExportDescriptor) : Prop :=
  ∃ j, parse (exportDescriptorToJson d) = some j ∧ StringsBack d j

/-! ## What is escaped is read back -/

theorem readEscape_hex4 {c : Char} (h : c.toNat < 0x20) (rest : Text) :
    readEscape ('u' :: (hex4 c.toNat ++ rest)) = some (c, rest) := by
  have hdigits : ∀ k < 0x20, hex4 k = ['0', '0', (k / 16).digitChar, (k % 16).digitChar] := by decide
  have hvalue : ∀ d < 16, hexValue? d.digitChar = some d := by decide
  have hzero : hexValue? '0' = some 0 := by decide
  have hhex : readHex4 (hex4 c.toNat ++ rest) = some (c.toNat, rest) := by
    rw [hdigits _ h]
    simp only [List.cons_append, List.nil_append, readHex4, hzero, hvalue (c.toNat / 16) (by omega),
      hvalue (c.toNat % 16) (by omega), Option.bind_eq_bind, Option.bind_some, Option.some.injEq,
      Prod.mk.injEq, and_true]
    omega
  have hhigh : isHighSurrogate c.toNat = false := by
    simp only [isHighSurrogate, Bool.and_eq_false_iff, decide_eq_false_iff_not]
    omega
  have hlow : isLowSurrogate c.toNat = false := by
    simp only [isLowSurrogate, Bool.and_eq_false_iff, decide_eq_false_iff_not]
    omega
  simp [readEscape, readUnicode, hhex, hhigh, hlow]

/-- One character of the string comes out of what `jsonEscape` makes of it. -/
theorem readString_escapeChar (n : Nat) (c : Char) (rest : Text) :
    readString (n + 1) (escapeChar c ++ rest) =
      (readString n rest).map fun found => (c :: found.1, found.2) := by
  by_cases hquote : c = '"'
  · subst hquote
    exact readString_escape n (by simp [readEscape])
  by_cases hbackslash : c = '\\'
  · subst hbackslash
    exact readString_escape n (by simp [readEscape])
  by_cases hline : c = '\n'
  · subst hline
    exact readString_escape n (by simp [readEscape])
  by_cases hreturn : c = '\r'
  · subst hreturn
    exact readString_escape n (by simp [readEscape])
  by_cases htab : c = '\t'
  · subst htab
    exact readString_escape n (by simp [readEscape])
  by_cases hcontrol : c.toNat < 0x20
  · have hchar : escapeChar c = '\\' :: 'u' :: hex4 c.toNat := by
      simp [escapeChar, hquote, hbackslash, hline, hreturn, htab, hcontrol]
    rw [hchar]
    exact readString_escape n (readEscape_hex4 hcontrol rest)
  · have hchar : escapeChar c = [c] := by
      simp [escapeChar, hquote, hbackslash, hline, hreturn, htab, hcontrol]
    rw [hchar]
    exact readString_plain n rest ⟨hquote, hbackslash, by omega⟩

theorem escapeChar_ne_nil (c : Char) : escapeChar c ≠ [] := by
  unfold escapeChar
  split_ifs <;> simp

theorem reads_jsonEscape (s : Text) : Reads (jsonEscape s) s := by
  intro n rest hn
  induction s generalizing n with
  | nil =>
    obtain ⟨n, rfl⟩ : ∃ m, n = m + 1 := ⟨n - 1, by simp [jsonEscape] at hn; omega⟩
    exact readString_quote n rest
  | cons c s ih =>
    have hcons : jsonEscape (c :: s) = escapeChar c ++ jsonEscape s := by simp [jsonEscape]
    have hpos : 0 < (escapeChar c).length := List.length_pos_iff.mpr (escapeChar_ne_nil c)
    rw [hcons, List.length_append] at hn
    obtain ⟨n, rfl⟩ : ∃ m, n = m + 1 := ⟨n - 1, by omega⟩
    rw [hcons, List.append_assoc, readString_escapeChar, ih n (by omega)]
    rfl

theorem reads_self_iff (s : Text) : Reads s s ↔ Clean s :=
  ⟨fun h => (clean_of_readString (h (s.length + 1) [] (by omega))).1, reads_of_clean⟩

/-! ## What is printed of a finite number is a number -/

theorem mem_of_mem_dropTrailingZeros {digits : Text} {c : Char} (h : c ∈ dropTrailingZeros digits) :
    c ∈ digits := by
  rw [dropTrailingZeros, List.mem_reverse] at h
  exact List.mem_reverse.mp ((List.dropWhile_sublist _).subset h)

theorem isExponent_exponentText (e : Int) : isExponent (exponentText e) = true := by
  have hdigits {n : Nat} : (natText n).all Char.isDigit = true :=
    List.all_eq_true.mpr fun c => isDigit_of_mem_natText
  have hsome {n : Nat} : (natText n).isEmpty = false := by simp [natText_ne_nil]
  rw [exponentText]
  split_ifs <;> simp [isExponent, dropSign, hdigits, hsome]

theorem isNumberTail_of_parts {fraction exponent : Text} (hdigits : ∀ c ∈ fraction, c.isDigit = true)
    (hexponent : exponent = [] ∨ ∃ e, exponent = exponentText e) :
    isNumberTail (fractionText fraction ++ exponent) = true := by
  have hisexponent : isExponent exponent = true := by
    rcases hexponent with rfl | ⟨e, rfl⟩
    · rfl
    · exact isExponent_exponentText e
  by_cases hfraction : fraction = []
  · subst hfraction
    rcases hexponent with rfl | ⟨e, rfl⟩
    · rfl
    · have hpoint : 'e' ≠ '.' := by decide
      simpa [fractionText, exponentText, isNumberTail, hpoint] using hisexponent
  · have hstop : ∀ c rest, exponent = c :: rest → c.isDigit = false := by
      rintro c rest rfl
      rcases hexponent with heq | ⟨e, heq⟩
      · exact absurd heq (by simp)
      · rw [(List.cons.inj heq).1]
        decide
    obtain ⟨htake, hdrop⟩ := takeWhile_append_stop hdigits hstop
    simp [fractionText, hfraction, isNumberTail, htake, hdrop, hisexponent]

theorem isWhole_take {digits : Text} (h : digits ≠ []) (hhead : digits.head? ≠ some '0') (k : Nat) :
    isWhole (digits.take (k + 1)) = true := by
  cases digits with
  | nil => exact absurd rfl h
  | cons c digits =>
    have hc : c ≠ '0' := by simpa using hhead
    simp [isWhole, hc]

theorem isWhole_take_natText (n k : Nat) : isWhole ((natText n).take (k + 1)) = true := by
  rcases Nat.eq_zero_or_pos n with rfl | hn
  · have hzero : natText 0 = ['0'] := by decide
    rw [hzero, List.take_of_length_le (by simp)]
    decide
  · exact isWhole_take (natText_ne_nil n) (head_natText hn) k

theorem unsignedText_parts (x : Decimal) :
    ∃ whole tail, x.unsignedText = whole ++ tail ∧ (∀ c ∈ whole, c.isDigit = true) ∧
      isWhole whole = true ∧ isNumberTail tail = true := by
  have hdigits {c : Char} (hc : c ∈ natText x.coefficient) : c.isDigit = true :=
    isDigit_of_mem_natText hc
  have hfraction {k : Nat} :
      ∀ c ∈ dropTrailingZeros ((natText x.coefficient).drop k), c.isDigit = true :=
    fun c hc => hdigits (List.mem_of_mem_drop (mem_of_mem_dropTrailingZeros hc))
  have hnone (fraction : Text) : fractionText fraction = fractionText fraction ++ [] := by simp
  rw [Decimal.unsignedText]
  split_ifs
  · refine ⟨_, _, rfl, fun c hc => hdigits (List.mem_of_mem_take hc), isWhole_take_natText _ _, ?_⟩
    rw [hnone]
    exact isNumberTail_of_parts hfraction (Or.inl rfl)
  · refine ⟨_, _, rfl, List.forall_mem_singleton.mpr (by decide), by decide, ?_⟩
    rw [hnone]
    refine isNumberTail_of_parts (fun c hc => ?_) (Or.inl rfl)
    rcases List.mem_append.mp (mem_of_mem_dropTrailingZeros hc) with hzero | hdigit
    · rw [List.eq_of_mem_replicate hzero]
      decide
    · exact hdigits hdigit
  · exact ⟨_, _, rfl, fun c hc => hdigits (List.mem_of_mem_take hc), isWhole_take_natText _ 0,
      isNumberTail_of_parts hfraction (Or.inr ⟨_, rfl⟩)⟩

theorem isNumber_decimal (negative : Bool) (x : Decimal) :
    isNumber (signed negative x.unsignedText) = true := by
  obtain ⟨whole, tail, heq, hdigits, hwhole, htail⟩ := unsignedText_parts x
  rw [signed, heq, ← List.append_assoc]
  exact isNumber_of_parts negative hdigits hwhole htail

theorem number_or_unreadable (x : Double) :
    (x.IsFinite ∧ isNumber x.text = true) ∨
      (¬x.IsFinite ∧ isNumber x.text = false ∧ Unreadable x.text) := by
  cases x with
  | finite value => exact Or.inl ⟨trivial, isNumber_decimal _ _⟩
  | infinity negative =>
    refine Or.inr ⟨id, ?_, ?_⟩
    · cases negative <;> decide
    · cases negative with
      | false =>
        refine ⟨'i', ['n', 'f'], rfl, by decide, by decide, fun n rest => ?_⟩
        cases n <;> simp [Double.text, signed, readValue, skipBlanks, isBlank, readNumber, isNumberChar,
          isNumber]
      | true =>
        refine ⟨'-', ['i', 'n', 'f'], rfl, by decide, by decide, fun n rest => ?_⟩
        cases n <;> simp [Double.text, signed, readValue, skipBlanks, isBlank, readNumber, isNumberChar,
          isNumber, isUnsignedNumber, isWhole]
  | notANumber negative =>
    refine Or.inr ⟨id, ?_, ?_⟩
    · cases negative <;> decide
    · cases negative with
      | false =>
        refine ⟨'n', ['a', 'n'], rfl, by decide, by decide, fun n rest => ?_⟩
        cases n <;> simp [Double.text, signed, readValue, skipBlanks, isBlank, readWord]
      | true =>
        refine ⟨'-', ['n', 'a', 'n'], rfl, by decide, by decide, fun n rest => ?_⟩
        cases n <;> simp [Double.text, signed, readValue, skipBlanks, isBlank, readNumber, isNumberChar,
          isNumber, isUnsignedNumber, isWhole]

/-! ## The template of the document -/

def natural (n : Nat) : Template := .number (natText n)

def integer (i : Int) : Template := .number (intText i)

def unescaped (s : Text) : Template := .quoted s s

def escaped (s : Text) : Template := .quoted (jsonEscape s) s

def identityTemplate (d : ExportProductIdentity) : Template :=
  .object
    [("profileKey".toList, unescaped d.profileKey),
      ("productDisplayName".toList, unescaped d.productDisplayName),
      ("manufacturerId".toList, natural d.manufacturerId.toNat),
      ("medium".toList, natural d.medium.ctorIdx),
      ("applicationProgram".toList, .object
        [("number".toList, natural d.applicationProgram.applicationNumber.toNat),
          ("version".toList, natural d.applicationProgram.applicationVersion.toNat)]),
      ("hardwareSerialNumber".toList, natural d.hardwareSerialNumber.toNat),
      ("hardwareVersion".toList, natural d.hardwareVersion.toNat),
      ("orderNumber".toList, unescaped d.orderNumber)]

def featuresTemplate (d : ExportFeatureFlags) : Template :=
  .object
    [("persistenceEnabled".toList, .bool d.persistenceEnabled),
      ("securityCapable".toList, .bool d.securityCapable),
      ("readResponsesEnabled".toList, .bool d.readResponsesEnabled),
      ("diagnosticsEnabled".toList, .bool d.diagnosticsEnabled)]

def securityTemplate (d : ExportSecurityDescriptor) : Template :=
  .object
    [("dataSecureCapable".toList, .bool d.dataSecureCapable),
      ("groupObjectRequirement".toList,
        unescaped (exportSecurityRequirementName d.groupObjectRequirement)),
      ("individualAddressEntries".toList, natural d.individualAddressEntries.toNat),
      ("groupKeyTableEntries".toList, natural d.groupKeyTableEntries.toNat),
      ("p2pKeyTableEntries".toList, natural d.p2pKeyTableEntries.toNat)]

def capacitiesTemplate (d : ExportCapacities) : Template :=
  .object
    [("groupObjectCount".toList, natural d.datapointCount),
      ("addressTableEntries".toList, natural d.groupAddressCapacity),
      ("associationEntries".toList, natural d.datapointLinkCapacity),
      ("autoResponseQueueCapacity".toList, natural d.autoResponseQueueCapacity),
      ("transmissionOutcomeQueueCapacity".toList, natural d.transmissionOutcomeQueueCapacity)]

def communicationObjectTemplate (c : ExportCommunicationObjectDescriptor) : Template :=
  .object
    [("exportNumber".toList, natural c.exportNumber.toNat),
      ("logicalId".toList, natural c.logicalId.toNat),
      ("key".toList, unescaped c.key),
      ("displayName".toList, unescaped c.displayName),
      ("defaultAddress".toList, natural c.defaultAddress.toNat),
      ("dpt_main".toList, natural c.dpt.main.number.toNat),
      ("dpt_sub".toList, natural c.dpt.sub.toNat),
      ("valueType".toList, natural c.valueType.ctorIdx),
      ("readable".toList, .bool c.readable),
      ("writable".toList, .bool c.writable),
      ("transmit".toList, .bool c.transmit),
      ("receivable".toList, .bool c.receivable),
      ("readOnInit".toList, .bool c.readOnInit),
      ("communication".toList, .bool c.communication),
      ("persisted".toList, .bool c.persisted)]

def optionTemplate (x : ExportParameterOption) : Template :=
  .object [("value".toList, integer x.value.toInt), ("label".toList, escaped x.label)]

def optionsMembers (p : ExportParameterDescriptor) : List (Text × Template) :=
  if 0 < p.optionCount then [("options".toList, .array (p.declared.map optionTemplate))] else []

def rangeMembers (p : ExportParameterDescriptor) : List (Text × Template) :=
  if p.minValue.isNonzero || p.maxValue.isNonzero then
    [("minValue".toList, .number p.minValue.text), ("maxValue".toList, .number p.maxValue.text)]
  else []

def escapedMembers (name : String) (text : Text) : List (Text × Template) :=
  if text.isEmpty then [] else [(name.toList, escaped text)]

def conditionMembers (idName valueName : String) (parameterId : UInt16) (value : Int64) :
    List (Text × Template) :=
  if parameterId = 0xFFFF then []
  else [(idName.toList, natural parameterId.toNat), (valueName.toList, integer value.toInt)]

/-- The members that every parameter has. -/
def requiredMembers (p : ExportParameterDescriptor) : List (Text × Template) :=
  [("id".toList, natural p.id.toNat),
    ("key".toList, unescaped p.key),
    ("displayName".toList, unescaped p.displayName),
    ("valueKind".toList, natural p.valueKind.ctorIdx),
    ("required".toList, .bool p.required),
    ("defaultValue".toList, .number p.defaultValue.text)]

def optionalMembers (p : ExportParameterDescriptor) : List (Text × Template) :=
  optionsMembers p ++ rangeMembers p ++ escapedMembers "unit" p.unit ++
    escapedMembers "group" p.group ++
    conditionMembers "visibleWhenParameterId" "visibleWhenValue" p.visibleWhenParameterId
      p.visibleWhenValue ++
    conditionMembers "groupVisibleWhenParameterId" "groupVisibleWhenValue" p.groupVisibleWhenParameterId
      p.groupVisibleWhenValue

def parameterTemplate (p : ExportParameterDescriptor) : Template :=
  .object (requiredMembers p ++ optionalMembers p)

def document (d : StaticExportDescriptor) : Template :=
  .object
    [("identity".toList, identityTemplate d.identity),
      ("features".toList, featuresTemplate d.features),
      ("security".toList, securityTemplate d.security),
      ("capacities".toList, capacitiesTemplate d.capacities),
      ("communicationObjects".toList,
        .blank (.array (d.communicationObjects.map communicationObjectTemplate))),
      ("parameters".toList, .blank (.array (d.parameters.map parameterTemplate)))]

theorem render_identity (d : ExportProductIdentity) : render (identityTemplate d) = identityText d := by
  simp [identityTemplate, identityText, render, renderMembers, commaSeparated, label, inQuotes,
    natural, unescaped, -String.reduceToList]

theorem render_features (d : ExportFeatureFlags) : render (featuresTemplate d) = featuresText d := by
  simp [featuresTemplate, featuresText, render, renderMembers, commaSeparated, label,
    -String.reduceToList]

theorem render_security (d : ExportSecurityDescriptor) :
    render (securityTemplate d) = securityText d := by
  simp [securityTemplate, securityText, render, renderMembers, commaSeparated, label, inQuotes,
    natural, unescaped, -String.reduceToList]

theorem render_capacities (d : ExportCapacities) :
    render (capacitiesTemplate d) = capacitiesText d := by
  simp [capacitiesTemplate, capacitiesText, render, renderMembers, commaSeparated, label, natural,
    -String.reduceToList]

theorem render_communicationObject (c : ExportCommunicationObjectDescriptor) :
    render (communicationObjectTemplate c) = communicationObjectText c := by
  simp [communicationObjectTemplate, communicationObjectText, render, renderMembers, commaSeparated,
    label, inQuotes, natural, unescaped, -String.reduceToList]

theorem render_option (x : ExportParameterOption) : render (optionTemplate x) = optionText x := by
  simp [optionTemplate, optionText, render, renderMembers, commaSeparated, label, inQuotes, integer,
    escaped, -String.reduceToList]

theorem render_options (p : ExportParameterDescriptor) :
    ((renderMembers (optionsMembers p)).flatMap fun next => ',' :: next) = optionsText p := by
  have hoption : render ∘ optionTemplate = optionText := funext render_option
  rw [optionsMembers, optionsText]
  split_ifs
  · simp [renderMembers, renderElements_eq_map, render, label, hoption, -String.reduceToList]
  · rfl

theorem render_range (p : ExportParameterDescriptor) :
    ((renderMembers (rangeMembers p)).flatMap fun next => ',' :: next) = rangeText p := by
  rw [rangeMembers, rangeText]
  split_ifs
  · simp [renderMembers, render, label, -String.reduceToList]
  · rfl

theorem render_escaped (name : String) (text : Text) :
    ((renderMembers (escapedMembers name text)).flatMap fun next => ',' :: next)
      = escapedText name text := by
  rw [escapedMembers, escapedText]
  split_ifs
  · rfl
  · simp [renderMembers, render, label, inQuotes, escaped]

theorem render_condition (idName valueName : String) (parameterId : UInt16) (value : Int64) :
    ((renderMembers (conditionMembers idName valueName parameterId value)).flatMap
      fun next => ',' :: next) = conditionText idName valueName parameterId value := by
  rw [conditionMembers, conditionText]
  split_ifs
  · rfl
  · simp [renderMembers, render, label, natural, integer]

theorem renderMembers_append (xs ys : List (Text × Template)) :
    renderMembers (xs ++ ys) = renderMembers xs ++ renderMembers ys := by
  simp [renderMembers_eq_map]

theorem render_parameter (p : ExportParameterDescriptor) :
    render (parameterTemplate p) = parameterText p := by
  have hrequired : renderMembers (requiredMembers p) ≠ [] := by simp [requiredMembers, renderMembers]
  rw [parameterTemplate, render, renderMembers_append, commaSeparated_append hrequired]
  simp only [optionalMembers, renderMembers_append, List.flatMap_append, render_options, render_range,
    render_escaped, render_condition]
  simp [requiredMembers, renderMembers, render, commaSeparated, parameterText, label, inQuotes, natural,
    unescaped, -String.reduceToList]

theorem render_document (d : StaticExportDescriptor) :
    render (document d) = exportDescriptorToJson d := by
  have hobject : render ∘ communicationObjectTemplate = communicationObjectText :=
    funext render_communicationObject
  have hparameter : render ∘ parameterTemplate = parameterText := funext render_parameter
  simp [document, render, renderMembers, renderElements_eq_map, commaSeparated, exportDescriptorToJson,
    label, render_identity, render_features, render_security, render_capacities, hobject, hparameter,
    -String.reduceToList]

/-! ## Which texts and numbers the document rests on -/

/-- The strings that are written as they are. -/
def unescapedTexts (d : StaticExportDescriptor) : List Text :=
  [d.identity.profileKey, d.identity.productDisplayName, d.identity.orderNumber] ++
    (d.communicationObjects.flatMap fun c => [c.key, c.displayName]) ++
    d.parameters.flatMap fun p => [p.key, p.displayName]

/-- The floating point numbers that are written for a parameter. -/
def printedDoubles (p : ExportParameterDescriptor) : List Double :=
  p.defaultValue ::
    if p.minValue.isNonzero || p.maxValue.isNonzero then [p.minValue, p.maxValue] else []

section Pieces

variable {numbers : Text → Prop} {literals : Text → Text → Prop}
variable (hnatural : ∀ n, numbers (natText n)) (hinteger : ∀ i, numbers (intText i))
variable (hescaped : ∀ s, literals (jsonEscape s) s)

include hnatural in
theorem each_identity (d : ExportProductIdentity) :
    Each numbers literals (identityTemplate d) ↔
      ∀ s ∈ [d.profileKey, d.productDisplayName, d.orderNumber], literals s s := by
  have hnames : Clean "profileKey".toList ∧ Clean "productDisplayName".toList ∧
      Clean "manufacturerId".toList ∧ Clean "medium".toList ∧ Clean "applicationProgram".toList ∧
      Clean "number".toList ∧ Clean "version".toList ∧ Clean "hardwareSerialNumber".toList ∧
      Clean "hardwareVersion".toList ∧ Clean "orderNumber".toList := by decide
  simp [identityTemplate, Each, EachMember, hnames, natural, unescaped, hnatural, -String.reduceToList]

theorem each_features (d : ExportFeatureFlags) : Each numbers literals (featuresTemplate d) := by
  have hnames : Clean "persistenceEnabled".toList ∧ Clean "securityCapable".toList ∧
      Clean "readResponsesEnabled".toList ∧ Clean "diagnosticsEnabled".toList := by decide
  simp [featuresTemplate, Each, EachMember, hnames, -String.reduceToList]

include hnatural in
theorem each_security (hclean : ∀ s, Clean s → literals s s) (d : ExportSecurityDescriptor) :
    Each numbers literals (securityTemplate d) := by
  have hnames : Clean "dataSecureCapable".toList ∧ Clean "groupObjectRequirement".toList ∧
      Clean "individualAddressEntries".toList ∧ Clean "groupKeyTableEntries".toList ∧
      Clean "p2pKeyTableEntries".toList := by decide
  have hname : Clean (exportSecurityRequirementName d.groupObjectRequirement) := by
    cases d.groupObjectRequirement <;> decide
  simp [securityTemplate, Each, EachMember, hnames, natural, unescaped, hnatural, hclean _ hname,
    -String.reduceToList]

include hnatural in
theorem each_capacities (d : ExportCapacities) : Each numbers literals (capacitiesTemplate d) := by
  have hnames : Clean "groupObjectCount".toList ∧ Clean "addressTableEntries".toList ∧
      Clean "associationEntries".toList ∧ Clean "autoResponseQueueCapacity".toList ∧
      Clean "transmissionOutcomeQueueCapacity".toList := by decide
  simp [capacitiesTemplate, Each, EachMember, hnames, natural, hnatural, -String.reduceToList]

include hnatural in
theorem each_communicationObject (c : ExportCommunicationObjectDescriptor) :
    Each numbers literals (communicationObjectTemplate c) ↔
      ∀ s ∈ [c.key, c.displayName], literals s s := by
  have hnames : Clean "exportNumber".toList ∧ Clean "logicalId".toList ∧ Clean "key".toList ∧
      Clean "displayName".toList ∧ Clean "defaultAddress".toList ∧ Clean "dpt_main".toList ∧
      Clean "dpt_sub".toList ∧ Clean "valueType".toList ∧ Clean "readable".toList ∧
      Clean "writable".toList ∧ Clean "transmit".toList ∧ Clean "receivable".toList ∧
      Clean "readOnInit".toList ∧ Clean "communication".toList ∧ Clean "persisted".toList := by
    decide
  simp [communicationObjectTemplate, Each, EachMember, hnames, natural, unescaped, hnatural,
    -String.reduceToList]

include hinteger hescaped in
theorem each_option (x : ExportParameterOption) : Each numbers literals (optionTemplate x) := by
  have hnames : Clean "value".toList ∧ Clean "label".toList := by decide
  simp [optionTemplate, Each, EachMember, hnames, integer, escaped, hinteger, hescaped,
    -String.reduceToList]

theorem eachMember_append (xs ys : List (Text × Template)) :
    EachMember numbers literals (xs ++ ys) ↔
      EachMember numbers literals xs ∧ EachMember numbers literals ys := by
  simp only [eachMember_iff, List.forall_mem_append]

include hinteger hescaped in
theorem each_options (p : ExportParameterDescriptor) :
    EachMember numbers literals (optionsMembers p) := by
  have hname : Clean "options".toList := by decide
  rw [optionsMembers]
  split_ifs
  · simp [EachMember, Each, eachElement_iff, hname, each_option hinteger hescaped, -String.reduceToList]
  · trivial

theorem each_range (p : ExportParameterDescriptor) :
    EachMember numbers literals (rangeMembers p) ↔
      ∀ x ∈ (if p.minValue.isNonzero || p.maxValue.isNonzero then [p.minValue, p.maxValue] else []),
        numbers x.text := by
  have hnames : Clean "minValue".toList ∧ Clean "maxValue".toList := by decide
  rw [rangeMembers]
  split_ifs <;> simp [EachMember, Each, hnames, -String.reduceToList]

include hescaped in
theorem each_escaped {name : String} (hname : Clean name.toList) (text : Text) :
    EachMember numbers literals (escapedMembers name text) := by
  rw [escapedMembers]
  split_ifs
  · trivial
  · exact ⟨hname, hescaped text, trivial⟩

include hnatural hinteger in
theorem each_condition {idName valueName : String} (hid : Clean idName.toList)
    (hvalue : Clean valueName.toList) (parameterId : UInt16) (value : Int64) :
    EachMember numbers literals (conditionMembers idName valueName parameterId value) := by
  rw [conditionMembers]
  split_ifs
  · trivial
  · exact ⟨hid, hnatural _, hvalue, hinteger _, trivial⟩

include hnatural hinteger hescaped in
theorem each_parameter (p : ExportParameterDescriptor) :
    Each numbers literals (parameterTemplate p) ↔
      (∀ s ∈ [p.key, p.displayName], literals s s) ∧ ∀ x ∈ printedDoubles p, numbers x.text := by
  have hnames : Clean "id".toList ∧ Clean "key".toList ∧ Clean "displayName".toList ∧
      Clean "valueKind".toList ∧ Clean "required".toList ∧ Clean "defaultValue".toList := by
    decide
  have hrequired : EachMember numbers literals (requiredMembers p) ↔
      (∀ s ∈ [p.key, p.displayName], literals s s) ∧ numbers p.defaultValue.text := by
    simp [requiredMembers, EachMember, Each, hnames, natural, unescaped, hnatural, and_assoc,
      -String.reduceToList]
  rw [parameterTemplate, Each, eachMember_append, hrequired]
  simp only [optionalMembers, eachMember_append, each_options hinteger hescaped, each_range,
    each_escaped hescaped (by decide : Clean "unit".toList),
    each_escaped hescaped (by decide : Clean "group".toList),
    each_condition hnatural hinteger (by decide : Clean "visibleWhenParameterId".toList)
      (by decide : Clean "visibleWhenValue".toList),
    each_condition hnatural hinteger (by decide : Clean "groupVisibleWhenParameterId".toList)
      (by decide : Clean "groupVisibleWhenValue".toList), true_and, and_true]
  simp only [printedDoubles, List.forall_mem_cons, and_assoc]

include hnatural hinteger hescaped in
/-- The document is as wanted where the strings that are written as they are and the floating point
numbers are; everything else it is made of always is. -/
theorem each_document (hclean : ∀ s, Clean s → literals s s) (d : StaticExportDescriptor) :
    Each numbers literals (document d) ↔
      (∀ s ∈ unescapedTexts d, literals s s) ∧
        ∀ p ∈ d.parameters, ∀ x ∈ printedDoubles p, numbers x.text := by
  have hnames : Clean "identity".toList ∧ Clean "features".toList ∧ Clean "security".toList ∧
      Clean "capacities".toList ∧ Clean "communicationObjects".toList ∧ Clean "parameters".toList := by
    decide
  have hobjects :
      EachElement numbers literals (d.communicationObjects.map communicationObjectTemplate) ↔ ∀ s ∈ d.communicationObjects.flatMap fun c => [c.key, c.displayName], literals s s := by
    rw [eachElement_iff, List.forall_mem_map]
    simp only [each_communicationObject hnatural, List.mem_flatMap]
    exact ⟨fun h s ⟨c, hc, hs⟩ => h c hc s hs, fun h c hc s hs => h s ⟨c, hc, hs⟩⟩
  have hparameters : EachElement numbers literals (d.parameters.map parameterTemplate) ↔
      (∀ s ∈ d.parameters.flatMap fun p => [p.key, p.displayName], literals s s) ∧
        ∀ p ∈ d.parameters, ∀ x ∈ printedDoubles p, numbers x.text := by
    rw [eachElement_iff, List.forall_mem_map]
    simp only [each_parameter hnatural hinteger hescaped, List.mem_flatMap]
    exact ⟨fun h => ⟨fun s ⟨p, hp, hs⟩ => (h p hp).1 s hs, fun p hp => (h p hp).2⟩,
      fun h p hp => ⟨fun s hs => h.1 s ⟨p, hp, hs⟩, h.2 p hp⟩⟩
  rw [document, Each]
  simp only [EachMember, hnames, each_identity hnatural, each_features, each_security hnatural hclean,
    each_capacities hnatural, Each, hobjects, hparameters, true_and, and_true]
  rw [unescapedTexts, List.forall_mem_append, List.forall_mem_append, and_assoc, and_assoc]

end Pieces

/-! ## What is read of it -/

theorem agrees_unescaped {s name : Text} {j : Json} {members : List (Text × Json)}
    (h : j.Field name (· = .string s)) (hj : j = .object members) :
    ∀ v, (name, v) ∈ members → Agrees (unescaped s) v := by
  obtain ⟨members', rfl, -, hall⟩ := h
  obtain rfl := Json.object.inj hj
  exact fun v hv _ => hall v hv

theorem agrees_identity {d : ExportProductIdentity} {j : Json} (h : IdentityBack d j) :
    Agrees (identityTemplate d) j := by
  obtain ⟨hkey, hname, horder⟩ := h
  intro members hj
  simp only [agreesMembers_iff, List.forall_mem_cons]
  refine ⟨agrees_unescaped hkey hj, agrees_unescaped hname hj, fun _ _ => trivial, fun _ _ => trivial,
    fun v hv js hjs => ?_, fun _ _ => trivial, fun _ _ => trivial, agrees_unescaped horder hj, by simp⟩
  exact ⟨fun _ _ => trivial, fun _ _ => trivial, trivial⟩

theorem agrees_features (d : ExportFeatureFlags) (j : Json) : Agrees (featuresTemplate d) j :=
  fun _ _ => ⟨fun _ _ => trivial, fun _ _ => trivial, fun _ _ => trivial, fun _ _ => trivial, trivial⟩

theorem agrees_security (d : ExportSecurityDescriptor) (j : Json) : Agrees (securityTemplate d) j := by
  have hname : Clean (exportSecurityRequirementName d.groupObjectRequirement) := by
    cases d.groupObjectRequirement <;> decide
  exact fun _ _ => ⟨fun _ _ => trivial, fun _ _ hnot => absurd (reads_of_clean hname) hnot,
    fun _ _ => trivial, fun _ _ => trivial, fun _ _ => trivial, trivial⟩

theorem agrees_capacities (d : ExportCapacities) (j : Json) : Agrees (capacitiesTemplate d) j :=
  fun _ _ => ⟨fun _ _ => trivial, fun _ _ => trivial, fun _ _ => trivial, fun _ _ => trivial,
    fun _ _ => trivial, trivial⟩

theorem agrees_communicationObject (c : ExportCommunicationObjectDescriptor) (j : Json)
    (h : CommunicationObjectBack c j) : Agrees (communicationObjectTemplate c) j := by
  intro members hj
  simp only [agreesMembers_iff, List.forall_mem_cons]
  have hnothing {t : Template} {name : Text} (ht : ∀ v, Agrees t v) :
      ∀ v, (name, v) ∈ members → Agrees t v := fun v _ => ht v
  refine ⟨hnothing fun _ => trivial, hnothing fun _ => trivial, agrees_unescaped h.1 hj,
    agrees_unescaped h.2 hj, ?_⟩
  simp [natural, Agrees]

theorem agrees_escaped (s : Text) (j : Json) : Agrees (escaped s) j :=
  fun hnot => absurd (reads_jsonEscape s) hnot

theorem agrees_option (x : ExportParameterOption) (j : Json) : Agrees (optionTemplate x) j :=
  fun _ _ => ⟨fun _ _ => trivial, fun v _ => agrees_escaped x.label v, trivial⟩

theorem agrees_options (options : List ExportParameterOption) (js : List Json) :
    AgreesElements (options.map optionTemplate) js := by
  induction options generalizing js with
  | nil => simp [AgreesElements]
  | cons x options ih =>
    cases js with
    | nil => simp [AgreesElements]
    | cons v js => exact ⟨agrees_option x v, ih js⟩

theorem agrees_optional (p : ExportParameterDescriptor) :
    ∀ m ∈ optionalMembers p, ∀ j, Agrees m.2 j := by
  have hoptions : ∀ m ∈ optionsMembers p, ∀ j, Agrees m.2 j := by
    rw [optionsMembers]
    split_ifs
    · rintro m hm j
      obtain rfl := List.mem_singleton.mp hm
      exact fun js _ => agrees_options p.declared js
    · simp
  have hrange : ∀ m ∈ rangeMembers p, ∀ j, Agrees m.2 j := by
    rw [rangeMembers]
    split_ifs <;> simp [Agrees]
  have htext (name : String) (text : Text) : ∀ m ∈ escapedMembers name text, ∀ j, Agrees m.2 j := by
    rw [escapedMembers]
    split_ifs <;> simp [agrees_escaped]
  have hcondition (idName valueName : String) (parameterId : UInt16) (value : Int64) :
      ∀ m ∈ conditionMembers idName valueName parameterId value, ∀ j, Agrees m.2 j := by
    rw [conditionMembers]
    split_ifs <;> simp [natural, integer, Agrees]
  simp only [optionalMembers, List.forall_mem_append]
  exact ⟨⟨⟨⟨⟨hoptions, hrange⟩, htext _ _⟩, htext _ _⟩, hcondition _ _ _ _⟩, hcondition _ _ _ _⟩

theorem agrees_parameter (p : ExportParameterDescriptor) (j : Json) (h : ParameterBack p j) :
    Agrees (parameterTemplate p) j := by
  intro members hj
  rw [agreesMembers_iff, List.forall_mem_append]
  refine ⟨?_, fun m hm v _ => agrees_optional p m hm v⟩
  simp only [requiredMembers, List.forall_mem_cons]
  exact ⟨fun _ _ => trivial, agrees_unescaped h.1 hj, agrees_unescaped h.2.1 hj, fun _ _ => trivial,
    fun _ _ => trivial, fun _ _ => trivial, by simp⟩

theorem agrees_list {α : Type} {entries : List α} {j : Json} {wanted : α → Json → Prop}
    {template : α → Template} {name : Text} {members : List (Text × Json)}
    (h : j.Field name fun list => list.Elements entries wanted)
    (hentry : ∀ x v, wanted x v → Agrees (template x) v) (hj : j = .object members) :
    ∀ v, (name, v) ∈ members → Agrees (.blank (.array (entries.map template))) v := by
  obtain ⟨members', rfl, -, hall⟩ := h
  obtain rfl := Json.object.inj hj
  intro v hv js hjs
  obtain ⟨elements, rfl, hback⟩ := hall v hv
  obtain rfl := Json.array.inj hjs
  exact agreesElements_of_forall₂ hback hentry

theorem agrees_document {d : StaticExportDescriptor} {j : Json} (h : StringsBack d j) :
    Agrees (document d) j := by
  obtain ⟨hidentity, hobjects, hparameters⟩ := h
  intro members hj
  refine ⟨fun v hv => ?_, fun v _ => agrees_features _ v, fun v _ => agrees_security _ v,
    fun v _ => agrees_capacities _ v, agrees_list hobjects agrees_communicationObject hj,
    agrees_list hparameters agrees_parameter hj, trivial⟩
  obtain ⟨members', rfl, -, hall⟩ := hidentity
  obtain rfl := Json.object.inj hj
  exact agrees_identity (hall v hv)

/-! ## What a good document gives back -/

theorem field_value {members : List (Text × Template)} {name : Text} {t : Template}
    {wanted : Json → Prop} (hmem : (name, t) ∈ members) (hall : ∀ t', (name, t') ∈ members → wanted (value t')) :
    (value (.object members)).Field name wanted := by
  refine ⟨valueMembers members, rfl, ⟨value t, ?_⟩, fun v hv => ?_⟩
  · rw [valueMembers_eq_map]
    exact List.mem_map.mpr ⟨_, hmem, rfl⟩
  · rw [valueMembers_eq_map] at hv
    obtain ⟨⟨name', t'⟩, hmem', heq⟩ := List.mem_map.mp hv
    obtain ⟨rfl, rfl⟩ := Prod.mk.inj heq
    exact hall t' hmem'

theorem lacks_value {members : List (Text × Template)} {name : Text} (h : ∀ t, (name, t) ∉ members) :
    (value (.object members)).Lacks name := by
  refine ⟨valueMembers members, rfl, fun v hv => ?_⟩
  rw [valueMembers_eq_map] at hv
  obtain ⟨⟨name', t'⟩, hmem', heq⟩ := List.mem_map.mp hv
  obtain ⟨rfl, rfl⟩ := Prod.mk.inj heq
  exact h t' hmem'

theorem elements_value {α : Type} {entries : List α} {wanted : α → Json → Prop}
    {template : α → Template} (h : ∀ x ∈ entries, wanted x (value (template x))) :
    (value (.array (entries.map template))).Elements entries wanted := by
  refine ⟨entries.map fun x => value (template x), ?_, ?_⟩
  · rw [value, valueElements_eq_map, List.map_map]
    rfl
  · rw [List.forall₂_map_right_iff, List.forall₂_same]
    exact h

theorem identityBack_value (d : ExportProductIdentity) :
    IdentityBack d (value (identityTemplate d)) := by
  refine ⟨field_value (t := unescaped d.profileKey) ?_ ?_,
    field_value (t := unescaped d.productDisplayName) ?_ ?_,
    field_value (t := unescaped d.orderNumber) ?_ ?_⟩ <;>
  simp [String.toList_inj, unescaped, value, -String.reduceToList]

theorem communicationObjectBack_value (c : ExportCommunicationObjectDescriptor) :
    CommunicationObjectBack c (value (communicationObjectTemplate c)) := by
  refine ⟨field_value (t := unescaped c.key) ?_ ?_,
    field_value (t := unescaped c.displayName) ?_ ?_⟩ <;>
  simp [String.toList_inj, unescaped, value, -String.reduceToList]

theorem optionBack_value (x : ExportParameterOption) : OptionBack x (value (optionTemplate x)) := by
  refine field_value (t := escaped x.label) ?_ ?_ <;>
  simp [String.toList_inj, escaped, value, -String.reduceToList]

theorem mem_optionsMembers {p : ExportParameterDescriptor} {name : Text} {t : Template} :
    (name, t) ∈ optionsMembers p ↔
      0 < p.optionCount ∧ name = "options".toList ∧ t = .array (p.declared.map optionTemplate) := by
  rw [optionsMembers]
  split_ifs with h <;> simp [h, -String.reduceToList]

theorem mem_rangeMembers {p : ExportParameterDescriptor} {name : Text} {t : Template}
    (h : (name, t) ∈ rangeMembers p) : name = "minValue".toList ∨ name = "maxValue".toList := by
  rw [rangeMembers] at h
  split_ifs at h
  · simp only [List.mem_cons, Prod.mk.injEq, List.not_mem_nil, or_false] at h
    exact h.imp And.left And.left
  · exact absurd h (by simp)

theorem mem_escapedMembers {name : Text} {unitOrGroup : String} {text : Text} {t : Template} :
    (name, t) ∈ escapedMembers unitOrGroup text ↔
      text ≠ [] ∧ name = unitOrGroup.toList ∧ t = escaped text := by
  rw [escapedMembers]
  split_ifs with h
  · simp [List.isEmpty_iff.mp h]
  · simp [List.isEmpty_iff.not.mp h]

theorem mem_conditionMembers {name : Text} {idName valueName : String} {parameterId : UInt16}
    {conditionValue : Int64} {t : Template}
    (h : (name, t) ∈ conditionMembers idName valueName parameterId conditionValue) :
    name = idName.toList ∨ name = valueName.toList := by
  rw [conditionMembers] at h
  split_ifs at h
  · exact absurd h (by simp)
  · simp only [List.mem_cons, Prod.mk.injEq, List.not_mem_nil, or_false] at h
    exact h.imp And.left And.left

theorem mem_parameterMembers {p : ExportParameterDescriptor} {name : Text} {t : Template}
    (h : (name, t) ∈ requiredMembers p ++ optionalMembers p) :
    (name, t) ∈ requiredMembers p ∨ (name, t) ∈ optionsMembers p ∨
      (name, t) ∈ escapedMembers "unit" p.unit ∨ (name, t) ∈ escapedMembers "group" p.group ∨
      name ∈ ["minValue".toList, "maxValue".toList, "visibleWhenParameterId".toList,
        "visibleWhenValue".toList, "groupVisibleWhenParameterId".toList,
        "groupVisibleWhenValue".toList] := by
  simp only [optionalMembers, List.mem_append] at h
  rcases h with h | ((((h | h) | h) | h) | h) | h
  · exact Or.inl h
  · exact Or.inr (Or.inl h)
  · rcases mem_rangeMembers h with rfl | rfl <;> simp [-String.reduceToList]
  · exact Or.inr (Or.inr (Or.inl h))
  · exact Or.inr (Or.inr (Or.inr (Or.inl h)))
  · rcases mem_conditionMembers h with rfl | rfl <;> simp [-String.reduceToList]
  · rcases mem_conditionMembers h with rfl | rfl <;> simp [-String.reduceToList]

theorem parameterMember_cases {p : ExportParameterDescriptor} {t : Template} {name : String}
    (h : (name.toList, t) ∈ requiredMembers p ++ optionalMembers p) :
    (name = "key" → t = unescaped p.key) ∧ (name = "displayName" → t = unescaped p.displayName) ∧
      (name = "options" → 0 < p.optionCount ∧ t = .array (p.declared.map optionTemplate)) ∧
      (name = "unit" → p.unit ≠ [] ∧ t = escaped p.unit) ∧
      (name = "group" → p.group ≠ [] ∧ t = escaped p.group) := by
  have hcases := mem_parameterMembers h
  simp only [requiredMembers, mem_optionsMembers, mem_escapedMembers, List.mem_cons, Prod.mk.injEq,
    List.not_mem_nil, or_false, String.toList_inj] at hcases
  refine ⟨?_, ?_, ?_, ?_, ?_⟩ <;>
  · rintro rfl
    simpa using hcases

theorem length_declared (p : ExportParameterDescriptor) : p.declared.length = p.optionCount := by
  simp [ExportParameterDescriptor.declared, p.optionCount_le]

theorem escapedBack_value {p : ExportParameterDescriptor} {name : String} {text : Text}
    (hmem : text ≠ [] → (name.toList, escaped text) ∈ requiredMembers p ++ optionalMembers p)
    (hall : ∀ t, (name.toList, t) ∈ requiredMembers p ++ optionalMembers p →
      text ≠ [] ∧ t = escaped text) :
    EscapedBack (value (parameterTemplate p)) name text := by
  rw [EscapedBack]
  split_ifs with htext
  · exact lacks_value fun t ht => (hall t ht).1 htext
  · refine field_value (hmem htext) fun t ht => ?_
    rw [(hall t ht).2]
    rfl

theorem parameterBack_value (p : ExportParameterDescriptor) :
    ParameterBack p (value (parameterTemplate p)) := by
  refine ⟨?_, ?_, ?_, ?_, ?_⟩
  · refine field_value (t := unescaped p.key) (by simp [requiredMembers]) fun t ht => ?_
    rw [(parameterMember_cases ht).1 rfl]
    rfl
  · refine field_value (t := unescaped p.displayName) (by simp [requiredMembers]) fun t ht => ?_
    rw [(parameterMember_cases ht).2.1 rfl]
    rfl
  · have hnil : p.declared = [] ↔ ¬0 < p.optionCount := by
      rw [← length_declared, ← List.length_eq_zero_iff]
      omega
    rw [OptionsBack]
    split_ifs with hnone
    · exact lacks_value fun t ht => hnil.mp hnone ((parameterMember_cases ht).2.2.1 rfl).1
    · have hpos : 0 < p.optionCount := not_not.mp fun hzero => hnone (hnil.mpr hzero)
      refine field_value (t := .array (p.declared.map optionTemplate)) ?_ fun t ht => ?_
      · exact List.mem_append_right _ (by simp [optionalMembers, mem_optionsMembers, hpos])
      · rw [((parameterMember_cases ht).2.2.1 rfl).2]
        exact elements_value fun x _ => optionBack_value x
  · refine escapedBack_value (fun htext => ?_) fun t ht => (parameterMember_cases ht).2.2.2.1 rfl
    exact List.mem_append_right _ (by simp [optionalMembers, mem_escapedMembers, htext])
  · refine escapedBack_value (fun htext => ?_) fun t ht => (parameterMember_cases ht).2.2.2.2 rfl
    exact List.mem_append_right _ (by simp [optionalMembers, mem_escapedMembers, htext])

theorem stringsBack_value (d : StaticExportDescriptor) : StringsBack d (value (document d)) := by
  refine ⟨field_value (t := identityTemplate d.identity) ?_ ?_,
    field_value (t := .blank (.array (d.communicationObjects.map communicationObjectTemplate))) ?_ ?_,
    field_value (t := .blank (.array (d.parameters.map parameterTemplate))) ?_ ?_⟩
  · simp [-String.reduceToList]
  · simp [String.toList_inj, identityBack_value, -String.reduceToList]
  · simp [-String.reduceToList]
  · simp only [List.mem_cons, Prod.mk.injEq, String.toList_inj, List.not_mem_nil, or_false]
    rintro t ht
    obtain rfl : t = .blank (.array (d.communicationObjects.map communicationObjectTemplate)) := by
      simpa using ht
    exact elements_value fun c _ => communicationObjectBack_value c
  · simp [-String.reduceToList]
  · simp only [List.mem_cons, Prod.mk.injEq, String.toList_inj, List.not_mem_nil, or_false]
    rintro t ht
    obtain rfl : t = .blank (.array (d.parameters.map parameterTemplate)) := by simpa using ht
    exact elements_value fun p _ => parameterBack_value p

/-! ## The export is faithful exactly where it escapes nothing away -/

theorem good_document_iff (d : StaticExportDescriptor) :
    Good (document d) ↔
      (∀ s ∈ unescapedTexts d, Clean s) ∧
        ∀ p ∈ d.parameters, ∀ x ∈ printedDoubles p, x.IsFinite := by
  have hfinite (x : Double) : isNumber x.text = true ↔ x.IsFinite := by
    rcases number_or_unreadable x with ⟨hx, hnumber⟩ | ⟨hx, hnumber, -⟩ <;> simp [hx, hnumber]
  rw [Good, each_document isNumber_natText isNumber_intText reads_jsonEscape fun _ => reads_of_clean]
  simp only [reads_self_iff, hfinite]

theorem wellShaped_document (d : StaticExportDescriptor) : WellShaped (document d) := by
  refine (each_document (fun n => Or.inl (isNumber_natText n)) (fun i => Or.inl (isNumber_intText i))
    (fun s _ _ _ _ => reads_jsonEscape s) (fun s hs _ _ _ _ => reads_of_clean hs) d).mpr
    ⟨fun s _ n rest r h => reads_of_clean (clean_of_readString h).1, fun p _ x _ => ?_⟩
  rcases number_or_unreadable x with ⟨-, hnumber⟩ | ⟨-, -, hunreadable⟩
  · exact Or.inl hnumber
  · exact Or.inr hunreadable

theorem faithful_iff_good (d : StaticExportDescriptor) : Faithful d ↔ Good (document d) := by
  rw [Faithful, ← render_document]
  constructor
  · rintro ⟨j, hparse, hback⟩
    exact good_of_parse (wellShaped_document d) hparse (agrees_document hback)
  · exact fun h => ⟨_, parse_render h, stringsBack_value d⟩

/-- The export of a product is faithful exactly where the keys, the display names and the order number
need no escape and every floating point number that is written is finite. -/
theorem faithful_iff (d : StaticExportDescriptor) :
    Faithful d ↔
      (∀ s ∈ unescapedTexts d, Clean s) ∧
        ∀ p ∈ d.parameters, ∀ x ∈ printedDoubles p, x.IsFinite := by
  rw [faithful_iff_good, good_document_iff]

/-- A product whose display name has quotes in it. -/
def quotedProduct : StaticExportDescriptor where
  identity :=
    { profileKey := "lamp".toList
      productDisplayName := "Lamp \"Lux\"".toList
      manufacturerId := 0xFA
      medium := .tp1
      applicationProgram := ⟨1, 1⟩
      hardwareSerialNumber := 1
      hardwareVersion := 1
      orderNumber := [] }
  features := ⟨true, false, true, false⟩
  security := ⟨false, .none, 1, 1, 1⟩
  capacities := ⟨0, 1, 1, 1, 1⟩
  communicationObjects := []
  parameters := []

theorem not_faithful : ¬ ∀ d, Faithful d := by
  intro h
  have hclean := ((good_document_iff quotedProduct).mp ((faithful_iff_good _).mp (h quotedProduct))).1
  exact absurd (hclean "Lamp \"Lux\"".toList (by decide)) (by decide)

end KnxStack.Ets.ExportJson
