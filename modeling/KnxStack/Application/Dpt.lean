import KnxStack.Types
import KnxStack.Lib.Words

/-!
# Datapoint types

The catalogue of datapoint types and their codecs (`dpt.hpp`, `dpt_catalog.inc`, `dpt.cpp`). A
datapoint value carries its value type; `encodeDptValue` writes it into a caller's buffer and
returns the octets written, `decodeDptValue` reads a payload back. Both look the type up in the
catalogue, exactly or at the main number, and leave the format to the codec of the value type.

Each codec checks its own ranges, in both directions separately. A buffer is a list of octets and
writing keeps what lies behind the payload. A character is its octet, a string the list of its
characters. The two floating point codecs are parameters.
-/

set_option autoImplicit false

namespace KnxStack.Application

open KnxStack.Lib.Words

/-! ## Values -/

/-- Main number of a datapoint type. Any number can be cast into the enumeration. -/
structure DptMainType where
  number : UInt16
  deriving DecidableEq

namespace DptMainType

def boolean : DptMainType := ⟨1⟩
def controlled1Bit : DptMainType := ⟨2⟩
def controlled3Bit : DptMainType := ⟨3⟩
def character : DptMainType := ⟨4⟩
def unsigned8 : DptMainType := ⟨5⟩
def signed8 : DptMainType := ⟨6⟩
def unsigned16 : DptMainType := ⟨7⟩
def signed16 : DptMainType := ⟨8⟩
def float2Byte : DptMainType := ⟨9⟩
def timeOfDay : DptMainType := ⟨10⟩
def date : DptMainType := ⟨11⟩
def unsigned32 : DptMainType := ⟨12⟩
def signed32 : DptMainType := ⟨13⟩
def float4Byte : DptMainType := ⟨14⟩
def accessControl : DptMainType := ⟨15⟩
def string : DptMainType := ⟨16⟩
def sceneNumber : DptMainType := ⟨17⟩
def sceneControl : DptMainType := ⟨18⟩
def dateTime : DptMainType := ⟨19⟩
def hvacMode : DptMainType := ⟨20⟩
def bitfield8 : DptMainType := ⟨21⟩
def bitfield16 : DptMainType := ⟨22⟩
def rgbColor : DptMainType := ⟨232⟩
def xyYColor : DptMainType := ⟨242⟩
def hsvColor : DptMainType := ⟨243⟩
def colorTransition : DptMainType := ⟨244⟩

end DptMainType

/-- A datapoint type identifier: main number and subtype, 0 for none. -/
structure DptId where
  main : DptMainType
  sub : UInt16
  deriving DecidableEq

structure Dpt2Value where
  control : Bool
  value : Bool
  deriving DecidableEq

structure Dpt3Value where
  control : Bool
  stepCode : UInt8
  deriving DecidableEq

structure Dpt10Value where
  dayOfWeek : UInt8
  hour : UInt8
  minute : UInt8
  second : UInt8
  deriving DecidableEq

structure Dpt11Value where
  day : UInt8
  month : UInt8
  year : UInt8
  deriving DecidableEq

structure Dpt15Value where
  digit0 : UInt8
  digit1 : UInt8
  digit2 : UInt8
  digit3 : UInt8
  error : Bool
  permission : Bool
  readDirection : Bool
  encrypted : Bool
  deriving DecidableEq

structure Dpt17Value where
  sceneNumber : UInt8
  valid : Bool
  deriving DecidableEq

structure Dpt18Value where
  sceneNumber : UInt8
  learn : Bool
  deriving DecidableEq

structure Dpt19Value where
  year : UInt16
  month : UInt8
  day : UInt8
  dayOfWeek : UInt8
  hour : UInt8
  minute : UInt8
  second : UInt8
  fault : Bool
  workingDay : Bool
  noWD : Bool
  noYear : Bool
  noDate : Bool
  noDayOfWeek : Bool
  noTime : Bool
  suti : Bool
  deriving DecidableEq

/-- The enumeration of operating modes names the codes 0 to 4; its type holds every octet. -/
structure Dpt20Mode where
  code : UInt8
  deriving DecidableEq

structure Dpt232Value where
  red : UInt8
  green : UInt8
  blue : UInt8
  deriving DecidableEq

structure Dpt242Value where
  x : UInt16
  y : UInt16
  brightness : UInt8
  valid : Bool
  deriving DecidableEq

structure Dpt243Value where
  hue : UInt16
  saturation : UInt8
  value : UInt8
  deriving DecidableEq

structure Dpt244Value where
  red : UInt8
  green : UInt8
  blue : UInt8
  fadeTime : UInt16
  reserved : UInt8
  deriving DecidableEq

/-- Value type of a datapoint (`DptValue::Type`). -/
inductive DptValueType where
  | unsupported
  | boolean
  | controlled1Bit
  | controlled3Bit
  | character
  | unsigned8
  | signed8
  | unsigned16
  | signed16
  | float2Byte
  | timeOfDay
  | date
  | unsigned32
  | signed32
  | float4Byte
  | accessControl
  | string
  | sceneNumber
  | sceneControl
  | dateTime
  | hvacMode
  | rgbColor
  | xyYColor
  | hsvColor
  | colorTransition
  deriving DecidableEq

/-- What a value of each type holds (`DptTraits::value_type`); `F` is the floating point type. -/
@[reducible] def DptValueType.Held (F : Type) : DptValueType → Type
  | .unsupported => Unit
  | .boolean => Bool
  | .controlled1Bit => Dpt2Value
  | .controlled3Bit => Dpt3Value
  | .character => UInt8
  | .unsigned8 => UInt8
  | .signed8 => Int8
  | .unsigned16 => UInt16
  | .signed16 => Int16
  | .float2Byte => F
  | .timeOfDay => Dpt10Value
  | .date => Dpt11Value
  | .unsigned32 => UInt32
  | .signed32 => Int32
  | .float4Byte => F
  | .accessControl => Dpt15Value
  | .string => List UInt8
  | .sceneNumber => Dpt17Value
  | .sceneControl => Dpt18Value
  | .dateTime => Dpt19Value
  | .hvacMode => Dpt20Mode
  | .rgbColor => Dpt232Value
  | .xyYColor => Dpt242Value
  | .hsvColor => Dpt243Value
  | .colorTransition => Dpt244Value

/-- A datapoint value. A float stored under a type that holds none is refused by every codec, and
is no value here. -/
structure DptValue (F : Type) where
  type : DptValueType
  held : type.Held F

/-! ## The catalogue -/

structure DptInfo where
  id : DptId
  valueType : DptValueType
  runtimeSupported : Bool

/-- One line of the catalogue; every line is supported at run time. -/
def entry (main : DptMainType) (sub : UInt16) (valueType : DptValueType) : DptInfo :=
  ⟨⟨main, sub⟩, valueType, true⟩

def kKnownDpts : List DptInfo :=
  [entry .boolean 0 .boolean,
   entry .boolean 1 .boolean,
   entry .boolean 3 .boolean,
   entry .boolean 4 .boolean,
   entry .boolean 5 .boolean,
   entry .boolean 6 .boolean,
   entry .boolean 7 .boolean,
   entry .boolean 8 .boolean,
   entry .boolean 9 .boolean,
   entry .boolean 10 .boolean,
   entry .boolean 11 .boolean,
   entry .boolean 12 .boolean,
   entry .boolean 18 .boolean,
   entry .boolean 19 .boolean,
   entry .boolean 100 .boolean,
   entry .boolean 17 .boolean,
   entry .boolean 16 .boolean,
   entry .boolean 15 .boolean,
   entry .controlled1Bit 0 .controlled1Bit,
   entry .controlled3Bit 0 .controlled3Bit,
   entry .controlled3Bit 7 .controlled3Bit,
   entry .character 0 .character,
   entry .unsigned8 0 .unsigned8,
   entry .signed8 0 .signed8,
   entry .signed8 10 .signed8,
   entry .unsigned16 0 .unsigned16,
   entry .signed16 0 .signed16,
   entry .float2Byte 0 .float2Byte,
   entry .timeOfDay 0 .timeOfDay,
   entry .date 0 .date,
   entry .unsigned32 0 .unsigned32,
   entry .signed32 0 .signed32,
   entry .float4Byte 0 .float4Byte,
   entry .accessControl 0 .accessControl,
   entry .string 0 .string,
   entry .sceneNumber 0 .sceneNumber,
   entry .sceneControl 0 .sceneControl,
   entry .dateTime 0 .dateTime,
   entry .hvacMode 0 .hvacMode,
   entry .rgbColor 0 .rgbColor,
   entry .xyYColor 0 .xyYColor,
   entry .hsvColor 0 .hsvColor,
   entry .colorTransition 0 .colorTransition,
   entry .float2Byte 1 .float2Byte,
   entry .float2Byte 7 .float2Byte,
   entry .float2Byte 4 .float2Byte,
   entry .float2Byte 24 .float2Byte,
   entry .float2Byte 21 .float2Byte,
   entry .float2Byte 6 .float2Byte,
   entry .float2Byte 25 .float2Byte,
   entry .float2Byte 20 .float2Byte,
   entry .float2Byte 2 .float2Byte,
   entry .float2Byte 8 .float2Byte,
   entry .float2Byte 5 .float2Byte,
   entry .float2Byte 10 .float2Byte,
   entry .float2Byte 29 .float2Byte,
   entry .unsigned8 1 .unsigned8,
   entry .unsigned8 10 .unsigned8,
   entry .unsigned8 3 .unsigned8,
   entry .unsigned16 1 .unsigned16,
   entry .unsigned16 2 .unsigned16,
   entry .unsigned16 600 .unsigned16,
   entry .signed16 1 .signed16,
   entry .signed32 10 .signed32,
   entry .float4Byte 68 .float4Byte,
   entry .float4Byte 60 .float4Byte,
   entry .float4Byte 33 .float4Byte,
   entry .float4Byte 57 .float4Byte,
   entry .hvacMode 102 .hvacMode,
   entry .hvacMode 103 .unsigned8,
   entry .hvacMode 104 .unsigned8,
   entry .hvacMode 105 .unsigned8,
   entry .hvacMode 106 .unsigned8,
   entry .hvacMode 107 .unsigned8,
   entry .hvacMode 108 .unsigned8,
   entry .hvacMode 109 .unsigned8,
   entry .hvacMode 110 .unsigned8,
   entry .hvacMode 111 .unsigned8,
   entry .hvacMode 112 .unsigned8,
   entry .hvacMode 113 .unsigned8,
   entry .bitfield8 1 .unsigned8,
   entry .bitfield8 102 .unsigned8,
   entry .bitfield16 101 .unsigned16,
   entry .string 1 .string]

/-- The first entry with the identifier, or else the one of its main number. -/
def lookupDptInfo (id : DptId) : Option DptInfo :=
  match kKnownDpts.find? (fun info => info.id = id) with
  | some info => some info
  | none =>
    if id.sub ≠ 0 then kKnownDpts.find? (fun info => info.id = ⟨id.main, 0⟩) else none

/-! ## Codecs -/

/-- The two functions of a codec class. Encoding returns the octets written and the buffer. -/
structure DptCodec (V : Type) where
  encode : V → List UInt8 → Result (Nat × List UInt8)
  decode : List UInt8 → Result V

/-- Copies a payload to the front of the buffer, if it fits. -/
def writeArray (bytes out : List UInt8) : Result (Nat × List UInt8) :=
  if out.length < bytes.length then .error .bufferTooSmall
  else .ok (bytes.length, bytes ++ out.drop bytes.length)

def writeWord (value : UInt16) (out : List UInt8) : Result (Nat × List UInt8) :=
  writeArray [highByte value, lowByte value] out

/-- One octet of a 32-bit word, the lowest at index 0. -/
def getByte (word : UInt32) (byteIndex : UInt8) : UInt8 :=
  ((word >>> (byteIndex.toUInt32 * 8)) &&& 0xFF).toUInt8

def makeDword (byte3 byte2 byte1 byte0 : UInt8) : UInt32 :=
  (byte3.toUInt32 <<< 24) ||| (byte2.toUInt32 <<< 16) ||| (byte1.toUInt32 <<< 8) ||| byte0.toUInt32

def writeDword (value : UInt32) (out : List UInt8) : Result (Nat × List UInt8) :=
  writeArray [getByte value 3, getByte value 2, getByte value 1, getByte value 0] out

/-- Sets the bits of a mask under a condition. -/
def setIf (condition : Bool) (mask flags : UInt8) : UInt8 :=
  if condition then flags ||| mask else flags

/-- Whether any bit under the mask is set. -/
def hasBit (octet mask : UInt8) : Bool :=
  octet &&& mask ≠ 0

/-- One bit as an octet. -/
def boolOctet (value : Bool) : UInt8 :=
  if value then 1 else 0

def Dpt1 : DptCodec Bool where
  encode value := writeArray [if value then 0x01 else 0x00]
  decode
    | b0 :: _ => .ok (hasBit b0 0x01)
    | _ => .error .decodeFailed

def Dpt2 : DptCodec Dpt2Value where
  encode val := writeArray [(boolOctet val.control <<< 1) ||| boolOctet val.value]
  decode
    | b0 :: _ => .ok { control := hasBit b0 0x02, value := hasBit b0 0x01 }
    | _ => .error .decodeFailed

def Dpt3 : DptCodec Dpt3Value where
  encode val out :=
    if val.stepCode > 0x07 then .error .invalidParameter
    else writeArray [(boolOctet val.control <<< 3) ||| (val.stepCode &&& 0x07)] out
  decode
    | b0 :: _ => .ok { control := hasBit b0 0x08, stepCode := b0 &&& 0x07 }
    | _ => .error .decodeFailed

def Dpt4 : DptCodec UInt8 where
  encode value := writeArray [value]
  decode
    | b0 :: _ => .ok b0
    | _ => .error .decodeFailed

def Dpt5 : DptCodec UInt8 where
  encode value := writeArray [value]
  decode
    | b0 :: _ => .ok b0
    | _ => .error .decodeFailed

def Dpt6 : DptCodec Int8 where
  encode value := writeArray [value.toUInt8]
  decode
    | b0 :: _ => .ok b0.toInt8
    | _ => .error .decodeFailed

def Dpt7 : DptCodec UInt16 where
  encode value := writeWord value
  decode
    | b0 :: b1 :: _ => .ok (joinBytes b0 b1)
    | _ => .error .decodeFailed

def Dpt8 : DptCodec Int16 where
  encode value := writeWord value.toUInt16
  decode
    | b0 :: b1 :: _ => .ok (joinBytes b0 b1).toInt16
    | _ => .error .decodeFailed

/-- The range check of both directions of DPT 10. -/
def Dpt10Value.OutOfRange (time : Dpt10Value) : Prop :=
  time.dayOfWeek > 7 ∨ time.hour > 23 ∨ time.minute > 59 ∨ time.second > 59

instance (time : Dpt10Value) : Decidable time.OutOfRange := by
  unfold Dpt10Value.OutOfRange
  infer_instance

def Dpt10 : DptCodec Dpt10Value where
  encode time out :=
    if time.OutOfRange then .error .invalidParameter
    else
      writeArray
        [((time.dayOfWeek &&& 0x07) <<< 5) ||| (time.hour &&& 0x1F),
         ((time.minute &&& 0x3F) <<< 2) ||| ((time.second >>> 4) &&& 0x03),
         (time.second &&& 0x3F) <<< 4] out
  decode
    | b0 :: b1 :: b2 :: _ =>
      let time : Dpt10Value :=
        { dayOfWeek := (b0 >>> 5) &&& 0x07
          hour := b0 &&& 0x1F
          minute := (b1 >>> 2) &&& 0x3F
          second := ((b1 &&& 0x03) <<< 4) ||| ((b2 >>> 4) &&& 0x3F) }
      if time.OutOfRange then .error .invalidParameter else .ok time
    | _ => .error .decodeFailed

/-- The range check of both directions of DPT 11. -/
def Dpt11Value.OutOfRange (date : Dpt11Value) : Prop :=
  date.day < 1 ∨ date.day > 31 ∨ date.month < 1 ∨ date.month > 12 ∨ date.year > 99

instance (date : Dpt11Value) : Decidable date.OutOfRange := by
  unfold Dpt11Value.OutOfRange
  infer_instance

def Dpt11 : DptCodec Dpt11Value where
  encode date out :=
    if date.OutOfRange then .error .invalidParameter
    else writeArray [date.day &&& 0x1F, date.month &&& 0x0F, date.year &&& 0x7F] out
  decode
    | b0 :: b1 :: b2 :: _ =>
      let date : Dpt11Value := { day := b0 &&& 0x1F, month := b1 &&& 0x0F, year := b2 &&& 0x7F }
      if date.OutOfRange then .error .invalidParameter else .ok date
    | _ => .error .decodeFailed

/-- What encoding refuses of DPT 19, whatever the flags say. -/
def Dpt19Value.OutOfRange (datetime : Dpt19Value) : Prop :=
  datetime.year < 1900 ∨ datetime.year > 2155 ∨ datetime.month < 1 ∨ datetime.month > 12 ∨
    datetime.day < 1 ∨ datetime.day > 31 ∨ datetime.dayOfWeek > 7 ∨ datetime.hour > 23 ∨
    datetime.minute > 59 ∨ datetime.second > 59

instance (datetime : Dpt19Value) : Decidable datetime.OutOfRange := by
  unfold Dpt19Value.OutOfRange
  infer_instance

/-- What decoding refuses of DPT 19: a field out of range that no flag marks as not valid. -/
def Dpt19Value.MarkedOutOfRange (datetime : Dpt19Value) : Prop :=
  (datetime.noYear = false ∧ (datetime.year < 1900 ∨ datetime.year > 2155)) ∨
    (datetime.noDate = false ∧
      (datetime.month < 1 ∨ datetime.month > 12 ∨ datetime.day < 1 ∨ datetime.day > 31)) ∨
    (datetime.noDayOfWeek = false ∧ datetime.dayOfWeek > 7) ∨
    (datetime.noTime = false ∧
      (datetime.hour > 23 ∨ datetime.minute > 59 ∨ datetime.second > 59))

instance (datetime : Dpt19Value) : Decidable datetime.MarkedOutOfRange := by
  unfold Dpt19Value.MarkedOutOfRange
  infer_instance

/-- The flags octet of DPT 19. -/
def Dpt19Value.flags1 (datetime : Dpt19Value) : UInt8 :=
  let flags := setIf datetime.fault 0x80 0
  let flags := setIf datetime.workingDay 0x40 flags
  let flags := setIf datetime.noWD 0x20 flags
  let flags := setIf datetime.noYear 0x10 flags
  let flags := setIf datetime.noDate 0x08 flags
  let flags := setIf datetime.noDayOfWeek 0x04 flags
  let flags := setIf datetime.noTime 0x02 flags
  setIf datetime.suti 0x01 flags

def Dpt19 : DptCodec Dpt19Value where
  encode datetime out :=
    if datetime.OutOfRange then .error .invalidParameter
    else
      writeArray
        [(datetime.year - 1900).toUInt8,
         datetime.month &&& 0x0F,
         datetime.day &&& 0x1F,
         ((datetime.dayOfWeek &&& 0x07) <<< 5) ||| ((datetime.hour >>> 2) &&& 0x07),
         ((datetime.hour &&& 0x03) <<< 6) ||| (datetime.minute &&& 0x3F),
         datetime.second &&& 0x3F,
         datetime.flags1,
         0x00] out
  decode
    | b0 :: b1 :: b2 :: b3 :: b4 :: b5 :: b6 :: _ :: _ =>
      let datetime : Dpt19Value :=
        { year := 1900 + b0.toUInt16
          month := b1 &&& 0x0F
          day := b2 &&& 0x1F
          dayOfWeek := (b3 >>> 5) &&& 0x07
          hour := ((b3 &&& 0x07) <<< 2) ||| ((b4 >>> 6) &&& 0x03)
          minute := b4 &&& 0x3F
          second := b5 &&& 0x3F
          fault := hasBit b6 0x80
          workingDay := hasBit b6 0x40
          noWD := hasBit b6 0x20
          noYear := hasBit b6 0x10
          noDate := hasBit b6 0x08
          noDayOfWeek := hasBit b6 0x04
          noTime := hasBit b6 0x02
          suti := hasBit b6 0x01 }
      if datetime.MarkedOutOfRange then .error .invalidParameter else .ok datetime
    | _ => .error .decodeFailed

def Dpt12 : DptCodec UInt32 where
  encode value := writeDword value
  decode
    | b0 :: b1 :: b2 :: b3 :: _ => .ok (makeDword b0 b1 b2 b3)
    | _ => .error .decodeFailed

def Dpt13 : DptCodec Int32 where
  encode value := writeDword value.toUInt32
  decode
    | b0 :: b1 :: b2 :: b3 :: _ => .ok (makeDword b0 b1 b2 b3).toInt32
    | _ => .error .decodeFailed

/-- At most 13 characters, filled up with zero octets to 14; read up to the first zero octet. -/
def Dpt16 : DptCodec (List UInt8) where
  encode value out :=
    if value.length > 13 then .error .invalidParameter
    else writeArray (value ++ List.replicate (14 - value.length) 0x00) out
  decode data :=
    if data.length < 14 then .error .decodeFailed
    else .ok ((data.take 14).takeWhile (fun octet => octet ≠ 0x00))

def Dpt17 : DptCodec Dpt17Value where
  encode scene out :=
    if scene.sceneNumber > 63 then .error .invalidParameter
    else writeArray [setIf (!scene.valid) 0x80 (scene.sceneNumber &&& 0x3F)] out
  decode
    | b0 :: _ => .ok { sceneNumber := b0 &&& 0x3F, valid := !hasBit b0 0x80 }
    | _ => .error .decodeFailed

/-- The digit check of both directions of DPT 15. -/
def Dpt15Value.DigitOutOfRange (access : Dpt15Value) : Prop :=
  access.digit0 > 9 ∨ access.digit1 > 9 ∨ access.digit2 > 9 ∨ access.digit3 > 9

instance (access : Dpt15Value) : Decidable access.DigitOutOfRange := by
  unfold Dpt15Value.DigitOutOfRange
  infer_instance

/-- The control bits that every octet of DPT 15 repeats. -/
def Dpt15Value.controlBits (access : Dpt15Value) : UInt8 :=
  let bits := setIf access.encrypted 0x01 0
  let bits := setIf access.readDirection 0x02 bits
  let bits := setIf access.permission 0x04 bits
  setIf access.error 0x08 bits

def Dpt15 : DptCodec Dpt15Value where
  encode access out :=
    if access.DigitOutOfRange then .error .invalidParameter
    else
      writeArray
        [(access.digit3 <<< 4) ||| access.controlBits,
         (access.digit2 <<< 4) ||| access.controlBits,
         (access.digit1 <<< 4) ||| access.controlBits,
         (access.digit0 <<< 4) ||| access.controlBits] out
  decode
    | b0 :: b1 :: b2 :: b3 :: _ =>
      let controlBits := b3 &&& 0x0F
      let access : Dpt15Value :=
        { digit3 := (b0 >>> 4) &&& 0x0F
          digit2 := (b1 >>> 4) &&& 0x0F
          digit1 := (b2 >>> 4) &&& 0x0F
          digit0 := (b3 >>> 4) &&& 0x0F
          encrypted := hasBit controlBits 0x01
          readDirection := hasBit controlBits 0x02
          permission := hasBit controlBits 0x04
          error := hasBit controlBits 0x08 }
      if access.DigitOutOfRange then .error .invalidParameter else .ok access
    | _ => .error .decodeFailed

def Dpt18 : DptCodec Dpt18Value where
  encode scene out :=
    if scene.sceneNumber > 63 then .error .invalidParameter
    else writeArray [setIf scene.learn 0x80 (scene.sceneNumber &&& 0x3F)] out
  decode
    | b0 :: _ => .ok { sceneNumber := b0 &&& 0x3F, learn := hasBit b0 0x80 }
    | _ => .error .decodeFailed

/-- Decoding knows the modes 0 to 4; encoding writes the octet of any mode. -/
def Dpt20 : DptCodec Dpt20Mode where
  encode mode := writeArray [mode.code]
  decode
    | b0 :: _ => if b0 > 4 then .error .invalidParameter else .ok ⟨b0⟩
    | _ => .error .decodeFailed

def Dpt232 : DptCodec Dpt232Value where
  encode color := writeArray [color.red, color.green, color.blue]
  decode
    | b0 :: b1 :: b2 :: _ => .ok { red := b0, green := b1, blue := b2 }
    | _ => .error .decodeFailed

def Dpt242 : DptCodec Dpt242Value where
  encode color :=
    writeArray [highByte color.x, lowByte color.x, highByte color.y, lowByte color.y,
      color.brightness, if color.valid then 0x01 else 0x00]
  decode
    | b0 :: b1 :: b2 :: b3 :: b4 :: b5 :: _ =>
      .ok { x := joinBytes b0 b1, y := joinBytes b2 b3, brightness := b4, valid := hasBit b5 0x01 }
    | _ => .error .decodeFailed

/-- Hue, saturation and value scaled to an octet each, rounding down in both directions. -/
def Dpt243 : DptCodec Dpt243Value where
  encode color out :=
    if color.hue > 360 ∨ color.saturation > 100 ∨ color.value > 100 then .error .invalidParameter
    else
      writeArray
        [(color.hue.toUInt32 * 255 / 360).toUInt8,
         (color.saturation.toUInt32 * 255 / 100).toUInt8,
         (color.value.toUInt32 * 255 / 100).toUInt8] out
  decode
    | b0 :: b1 :: b2 :: _ =>
      .ok { hue := (b0.toUInt32 * 360 / 255).toUInt16
            saturation := (b1.toUInt32 * 100 / 255).toUInt8
            value := (b2.toUInt32 * 100 / 255).toUInt8 }
    | _ => .error .decodeFailed

def Dpt244 : DptCodec Dpt244Value where
  encode transition :=
    writeArray [transition.red, transition.green, transition.blue,
      highByte transition.fadeTime, lowByte transition.fadeTime, transition.reserved]
  decode
    | b0 :: b1 :: b2 :: b3 :: b4 :: b5 :: _ =>
      .ok { red := b0, green := b1, blue := b2, fadeTime := joinBytes b3 b4, reserved := b5 }
    | _ => .error .decodeFailed

/-! ## Dispatch -/

/-- The codecs of the two floating point formats. -/
structure FloatCodecs (F : Type) where
  dpt9 : DptCodec F
  dpt14 : DptCodec F

/-- The codec of each value type (`KNX_DPT_CODEC_DISPATCH`), one table for both directions. -/
def codecFor {F : Type} (floats : FloatCodecs F) : (type : DptValueType) → DptCodec (type.Held F)
  | .boolean => Dpt1
  | .controlled1Bit => Dpt2
  | .controlled3Bit => Dpt3
  | .character => Dpt4
  | .unsigned8 => Dpt5
  | .signed8 => Dpt6
  | .unsigned16 => Dpt7
  | .signed16 => Dpt8
  | .float2Byte => floats.dpt9
  | .timeOfDay => Dpt10
  | .date => Dpt11
  | .unsigned32 => Dpt12
  | .signed32 => Dpt13
  | .float4Byte => floats.dpt14
  | .accessControl => Dpt15
  | .string => Dpt16
  | .sceneNumber => Dpt17
  | .sceneControl => Dpt18
  | .dateTime => Dpt19
  | .hvacMode => Dpt20
  | .rgbColor => Dpt232
  | .xyYColor => Dpt242
  | .hsvColor => Dpt243
  | .colorTransition => Dpt244
  | .unsupported =>
    { encode := fun _ _ => .error .operationNotSupported
      decode := fun _ => .error .operationNotSupported }

def encodeDptValue {F : Type} (floats : FloatCodecs F) (id : DptId) (value : DptValue F)
    (data : List UInt8) : Result (Nat × List UInt8) :=
  match lookupDptInfo id with
  | none => .error .operationNotSupported
  | some info =>
    if info.runtimeSupported = false then .error .operationNotSupported
    else if info.valueType ≠ value.type then .error .operationNotSupported
    else (codecFor floats value.type).encode value.held data

def decodeDptValue {F : Type} (floats : FloatCodecs F) (id : DptId) (data : List UInt8) :
    Result (DptValue F) :=
  match lookupDptInfo id with
  | none => .error .operationNotSupported
  | some info =>
    if info.runtimeSupported = false then .error .operationNotSupported
    else
      match (codecFor floats info.valueType).decode data with
      | .error error => .error error
      | .ok held => .ok ⟨info.valueType, held⟩

end KnxStack.Application
