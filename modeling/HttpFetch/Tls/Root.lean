import HttpFetch.Tls.Der
/-!
# Roots

A root is a certificate that is trusted because someone says so. Nothing that it claims is checked,
but it has to be in one of two forms: that of the third version, whose extensions are each read once,
or the first one, which knows none.
-/

namespace HttpFetch.Root

/-- Why a root cannot be used. -/
inductive Fault where
  /-- the bytes are not those of a certificate -/
  | badEncoding
  /-- it names one algorithm inside and another one outside of what is signed -/
  | signatureAlgorithmMismatch
  /-- an extension is there twice -/
  | extensionValueInvalid
  /-- an extension that must be understood is not -/
  | unsupportedCriticalExtension
  /-- it does not say that it is of the third version -/
  | unsupportedVersion
  deriving Repr, DecidableEq

/-- The wording of a fault. -/
def Fault.message : Fault → String
  | .badEncoding => "invalid peer certificate: BadEncoding"
  | .signatureAlgorithmMismatch => other "SignatureAlgorithmMismatch"
  | .extensionValueInvalid => other "ExtensionValueInvalid"
  | .unsupportedCriticalExtension => other "UnsupportedCriticalExtension"
  | .unsupportedVersion => other "UnsupportedCertVersion"
where
  /-- The wording of a fault that has no name among those of peers. -/
  other (name : String) : String := "invalid peer certificate: Other(OtherError(" ++ name ++ "))"

/-! ## Reading elements -/

/-- What is read from the front of some bytes, and the bytes after it. -/
abbrev Reading (α : Type) : Type := Bytes → Except Fault (α × Bytes)

/-- The contents of an element with a tag. -/
def element (tag : UInt8) : Reading Bytes := fun bytes =>
  match Der.read? tag bytes with
  | some read => .ok read
  | none => .error .badEncoding

/-- The contents of elements with tags, in this order. -/
def elements : List UInt8 → Reading (List Bytes)
  | [], bytes => .ok ([], bytes)
  | tag :: tags, bytes => do
    let (first, bytes) ← element tag bytes
    let (others, bytes) ← elements tags bytes
    return (first :: others, bytes)

/-- What is read from bytes, of which none may be left. -/
def whole (reading : Reading α) (bytes : Bytes) : Except Fault α := do
  let (a, rest) ← reading bytes
  if rest.isEmpty then .ok a else .error .badEncoding

/-! ## Extensions -/

/-- A statement that is added to a certificate. -/
structure Extension where
  /-- what it is about -/
  about : Bytes
  /-- whether the certificate is useless to who does not understand it -/
  critical : Bool
  value : Bytes
  deriving DecidableEq

/-- A truth value, which is false if it is missing. -/
def flag : Reading Bool := fun bytes =>
  if bytes.head? = some Der.boolean then
    match Der.read? Der.boolean bytes with
    | some ([0xFF], rest) => .ok (true, rest)
    | some ([0x00], rest) => .ok (false, rest)
    | _ => .error .badEncoding
  else .ok (false, bytes)

/-- Reads the contents of an extension. -/
def Extension.read : Bytes → Except Fault Extension :=
  whole fun bytes => do
    let (about, bytes) ← element Der.identifier bytes
    let (critical, bytes) ← flag bytes
    let (value, bytes) ← element Der.octetString bytes
    return (⟨about, critical, value⟩, bytes)

/-- The number of the use of the key among the standard extensions. -/
def keyUsage : UInt8 := 15

/-- The numbers of the standard extensions that are understood: use of the key, other names of the
subject, basic constraints, constraints on names, distribution points, extended use of the key. -/
def understood : List UInt8 := [keyUsage, 17, 19, 30, 31, 37]

/-- The number of a standard extension that is understood. -/
def Extension.number? (e : Extension) : Option UInt8 :=
  match e.about with
  | [0x55, 0x1D, n] => if understood.contains n then some n else none
  | _ => none

/-- Takes note of an extension after those with the numbers `seen`. Its value is a sequence, but for
the use of the key, which is looked at only where the key is used. -/
def Extension.note (seen : List UInt8) (e : Extension) : Except Fault (List UInt8) :=
  match e.number? with
  | none => if e.critical then .error .unsupportedCriticalExtension else .ok seen
  | some n =>
    if seen.contains n then .error .extensionValueInvalid
    else if n = keyUsage then .ok (n :: seen)
    else (whole (element Der.sequence) e.value).map fun _ => n :: seen

/-- Reads extensions up to the end, after those with the numbers `seen`. -/
def checkExtensions (seen : List UInt8) (bytes : Bytes) : Except Fault Unit :=
  if bytes.isEmpty then .ok ()
  else match _h : Der.read? Der.sequence bytes with
    | none => .error .badEncoding
    | some (contents, rest) =>
      match Extension.read contents >>= Extension.note seen with
      | .error fault => .error fault
      | .ok seen => checkExtensions seen rest
termination_by bytes.length
decreasing_by exact Der.length_of_read? _h

/-! ## Certificates -/

/-- Whether a number that is not negative and fits a byte is spelled as short as can be. -/
def isByte : Bytes → Bool
  | [b] => b < 128
  | [0, b] => 128 ≤ b
  | _ => false

/-- The bytes after the mark of the third version, which the other versions lack. -/
def afterVersion (signed : Bytes) : Except Fault Bytes :=
  match Der.read? (Der.numbered 0) signed with
  | none => .error .unsupportedVersion
  | some (mark, rest) => do
    let (version, others) ← element Der.integer mark
    if !isByte version then .error .badEncoding
    else if version = [2] ∧ others.isEmpty then .ok rest
    else .error .unsupportedVersion

/-- Checks what is signed, after the mark of the third version: serial number, algorithm, issuer,
validity, subject, key, extensions. `algorithm` is the one that is named outside. -/
def checkThird (algorithm : Bytes) (bytes : Bytes) : Except Fault Unit := do
  let (_, bytes) ← element Der.integer bytes
  let (inner, bytes) ← element Der.sequence bytes
  if inner ≠ algorithm then .error .signatureAlgorithmMismatch
  else
    let (_, bytes) ← elements (List.replicate 4 Der.sequence) bytes
    if bytes.isEmpty then .ok ()
    else
      let tagged ← whole (element (Der.numbered 3)) bytes
      let extensions ← whole (element Der.sequence) tagged
      checkExtensions [] extensions

/-- Checks what is signed in the form of the first version: the same without mark and extensions. -/
def checkFirst (signed : Bytes) : Except Fault Unit :=
  (whole (elements (Der.integer :: List.replicate 5 Der.sequence)) signed).map fun _ => ()

/-- What is signed, and the algorithm named outside of it; the signature consists of whole bytes. -/
def split (bytes : Bytes) : Except Fault (Bytes × Bytes) := do
  let certificate ← whole (element Der.sequence) bytes
  let parts ← whole (elements [Der.sequence, Der.sequence, Der.bitString]) certificate
  match parts with
  | [signed, algorithm, signature] =>
    if signature.head? ≠ some 0 then .error .badEncoding else .ok (signed, algorithm)
  | _ => .error .badEncoding

/-- Checks a certificate that has to be of the third version. -/
def checkLeaf (bytes : Bytes) : Except Fault Unit := do
  let (signed, algorithm) ← split bytes
  checkThird algorithm (← afterVersion signed)

/-- Checks a root, which may be of the first version. -/
def check (bytes : Bytes) : Except Fault Unit := do
  let (signed, algorithm) ← split bytes
  match afterVersion signed with
  | .ok rest => checkThird algorithm rest
  | .error .unsupportedVersion => checkFirst signed
  | .error fault => .error fault

end HttpFetch.Root
