import RingBallot.Curve.Point
import RingBallot.Json.Basic
import RingBallot.KeyText.Version
import RingBallot.Signature.Component
import RingBallot.Text.Quoted

/-!
Why an operation gave no result: one constructor for each cause, the kind of each cause, and its
wording. A signature that is merely wrong is no failure.
-/

namespace RingBallot

inductive Failure
  /-- Residues modulo zero. -/
  | zeroModulus
  /-- Residues modulo a negative number, which no caller asks for and which are left out here. -/
  | negativeModulus
  /-- An inverse of a multiple of the modulus. -/
  | noInverse (modulus : Nat)
  | noSquareRoot
  /-- A root modulo an even number, where no power of two is left to correct by. -/
  | evenModulus
  /-- The loops of a root modulo an even number go on for ever, so there is not even a failure. -/
  | endless
  | negativeNumber
  | numberTooBig
  | badParameters (curve : String)
  /-- One coordinate without the other. -/
  | halfPoint
  | offCurve (P : Point) (curve : String)
  | offCurveEncoding (P : Point)
  | verticalTangent
  | notHex (position : Nat)
  | pointLength (length : Nat)
  | pointHead (head : UInt8)
  | abscissaTooBig
  | signOfZero
  | decodedOffCurve
  | notPublicKey
  | unknownVersion (version : Int)
  | wrongVersion (expected : Version) (found : UInt8)
  | payloadTooLong
  | textNotAscii
  | textPadding
  | textDigit
  | textTooShort
  | seedLength (length : Nat)
  | secretLength (length : Nat)
  | zeroSecret
  | notMessage (kind : Json.Kind)
  | outOfRange (component : Component)
  | signatureLength (length : Nat)
  | entryLength (member length : Nat)
  | keyImageLength (length : Nat)
  | noUsableNonce (attempts : Number)
  /-- The commitment to a nonce has no coordinates, the claimed group order being wrong. -/
  | infiniteCommitment
  | indexOutside (index : Int) (members : Nat)
  | notSignersKey (index : Int)
  | tooFewAttempts
  | versionTooBig
  | unknownField (name : String)
  | fieldType (name : String)
  | notWholeNumber (text : String)
  /-- A whole number with more digits than are read. -/
  | tooManyDigits (digits : Nat)
  /-- The failure is about a whole number with more digits than are written. -/
  | unwritable
  | unknownLevel (level : String)
  | logFormat (format : String)
  | levelType
  | documentSyntax
  | documentType
  deriving DecidableEq

/-- What an operation gives that may fail. -/
abbrev Outcome (α : Type) := Except Failure α

instance {α : Type} [DecidableEq α] : DecidableEq (Outcome α)
  | .ok a, .ok b => if h : a = b then .isTrue (by rw [h]) else .isFalse fun e => h (by cases e; rfl)
  | .error a, .error b =>
    if h : a = b then .isTrue (by rw [h]) else .isFalse fun e => h (by cases e; rfl)
  | .ok _, .error _ => .isFalse nofun
  | .error _, .ok _ => .isFalse nofun

namespace Failure

inductive Kind
  | notOnCurve
  | notInvertible
  | invalidEncoding
  | invalidIndex
  | outOfRange
  | randomness
  | invalidVersion
  | invalidValue
  | wrongType
  | unsupported
  | overflow
  | zeroModulus
  | syntaxError
  deriving DecidableEq

def kind : Failure → Kind
  | zeroModulus => .zeroModulus
  | noInverse _ | verticalTangent => .notInvertible
  | offCurve _ _ | offCurveEncoding _ => .notOnCurve
  | noSquareRoot | notHex _ | pointLength _ | pointHead _ | abscissaTooBig | signOfZero
  | decodedOffCurve | notPublicKey => .invalidEncoding
  | unknownVersion _ | wrongVersion _ _ => .invalidVersion
  | negativeNumber | numberTooBig => .overflow
  | outOfRange _ => .outOfRange
  | noUsableNonce _ => .randomness
  | indexOutside _ _ | notSignersKey _ => .invalidIndex
  | notMessage _ | infiniteCommitment | unknownField _ | fieldType _ => .wrongType
  | levelType | documentType => .unsupported
  | documentSyntax => .syntaxError
  -- what never ends fails in no way at all; it goes with the other values that have no answer
  | negativeModulus | endless | evenModulus | badParameters _ | halfPoint | payloadTooLong
  | textNotAscii | textPadding | textDigit | textTooShort | seedLength _ | secretLength _
  | zeroSecret | signatureLength _ | entryLength _ _ | keyImageLength _ | tooFewAttempts
  | versionTooBig | notWholeNumber _ | tooManyDigits _ | unwritable | unknownLevel _
  | logFormat _ => .invalidValue

private def counted (n : Nat) (what : String) (got : Nat) : String :=
  "need " ++ toString n ++ what ++ ", got " ++ toString got

private def entryOf65 (got : Nat) : String :=
  "expected 65 bytes, got " ++ toString got

def message : Failure → String
  | zeroModulus => "integer modulo by zero"
  | negativeModulus => "the modulus is negative"
  | noInverse m => "0 has no inverse modulo " ++ Hex.ofInt m
  | noSquareRoot => "value has no square root modulo p"
  | evenModulus => "negative shift count"
  | endless => "the loops of a square root do not end"
  | negativeNumber => "can't convert negative int to unsigned"
  | numberTooBig => "int too big to convert"
  | badParameters name => "invalid curve parameters for " ++ name
  | halfPoint => "both coordinates must be set, or neither"
  | offCurve P name => P.text ++ " is not on " ++ name
  | offCurveEncoding P => "cannot compress " ++ P.text
  | verticalTangent => "tangent is vertical at y = 0"
  | notHex k =>
    "not a hex string: non-hexadecimal number found in fromhex() arg at position " ++ toString k
  | pointLength n => counted 33 " bytes" n
  | pointHead b => "unknown prefix byte 0x" ++ Hex.padded 2 b.toNat
  | abscissaTooBig => "x-coordinate is not a field element"
  | signOfZero => "sign bit set on a point with y = 0"
  | decodedOffCurve => "decoded point is not on the curve"
  | notPublicKey => "not a public key of the prime-order subgroup"
  | unknownVersion v => "unknown version byte " ++ toString v
  | wrongVersion v b => "expected version " ++ v.name ++ ", got byte " ++ toString b.toNat
  | payloadTooLong => "data exceeds maximum payload size for strkey"
  | textNotAscii => "invalid strkey: string argument should contain only ASCII characters"
  | textPadding => "invalid strkey: Incorrect padding"
  | textDigit => "invalid strkey: Non-base32 digit found"
  | textTooShort => "decoded string is too short"
  | seedLength n => counted 32 " seed bytes" n
  | secretLength n => counted 32 " bytes" n
  | zeroSecret => "private scalar must be non-zero modulo the group order"
  | notMessage kind => "message must be str or bytes, not " ++ kind.text
  | outOfRange c => c.outside
  | signatureLength n => entryOf65 n
  | entryLength i n => "entry " ++ toString i ++ ": " ++ entryOf65 n
  | keyImageLength n => "key image: expected 33 bytes, got " ++ toString n
  | noUsableNonce n => "no usable nonce after " ++ n.text ++ " attempts"
  | infiniteCommitment => "the commitment is the point at infinity"
  | indexOutside i n =>
    "signer index " ++ toString i ++ " outside ring of size " ++ toString n
  | notSignersKey i => "ring member " ++ toString i ++ " is not the signer's public key"
  | tooFewAttempts => "max_sign_attempts must be >= 1"
  | versionTooBig => "version_byte must fit in one byte"
  | unknownField name => "unknown field " ++ Text.quoted name
  | fieldType name => "field " ++ Text.quoted name ++ " has a value of the wrong type"
  | notWholeNumber text =>
    "invalid literal for int() with base 10: " ++ String.ofList ((Text.quoted text).toList.take 200)
  | tooManyDigits n =>
    "Exceeds the limit (4300 digits) for integer string conversion: value has " ++ toString n ++
      " digits; use sys.set_int_max_str_digits() to increase the limit"
  | unwritable =>
    "Exceeds the limit (4300 digits) for integer string conversion; use " ++
      "sys.set_int_max_str_digits() to increase the limit"
  | unknownLevel level => "Unknown level: " ++ Text.quoted level
  | logFormat format => "Invalid format '" ++ format ++ "' for '%' style"
  | levelType => "the level is no text"
  | documentSyntax => "the document is malformed"
  | documentType => "the document is no object"

end Failure

end RingBallot
