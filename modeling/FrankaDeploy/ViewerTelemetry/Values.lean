import FrankaDeploy.PersistentSession.RobotState

/-! # Values of viewer telemetry

What a telemetry producer hands to the viewer: values of the kinds that JSON knows, and the checks
of `continuous_telemetry.py` on them. -/

namespace FrankaDeploy.ViewerTelemetry

open FrankaDeploy.Foundation
open FrankaDeploy.PersistentSession (NdArray Matrix)
open scoped FloatArith

/-! ## Exceptions -/

/-- What a handler of `(TypeError, ValueError)` tells apart. -/
inductive RaisedFamily where
  | typeError
  | valueError
  | other
deriving DecidableEq, Repr

/-- **A raised exception.** -/
structure Raised where
  family : RaisedFamily
  className : String
  message : String
deriving DecidableEq, Repr

def telemetryError (message : String) : Raised :=
  ⟨.valueError, "ContinuousTelemetryError", message⟩

def tornError (message : String) : Raised :=
  ⟨.valueError, "TornContinuousTelemetryError", message⟩

/-- `ContinuousTelemetryIdentityError`. -/
def identityError (message : String) : Raised :=
  ⟨.valueError, "ContinuousTelemetryIdentityError", message⟩

def replayError (message : String) : Raised :=
  ⟨.valueError, "ContinuousTelemetryReplayError", message⟩

def valueError (message : String) : Raised := ⟨.valueError, "ValueError", message⟩

def raiseIf (c : Prop) [Decidable c] (e : Raised) : Except Raised Unit :=
  if c then .error e else .ok ()

/-! ## Values -/

/-- **A value of a mapping.** `other` is an object of none of these types. -/
inductive PyValue (D : Type) where
  | none
  | bool (b : Bool)
  | int (n : ℤ)
  | float (x : D)
  | str (s : String)
  | list (items : List (PyValue D))
  | tuple (items : List (PyValue D))
  | mapping (entries : List (String × PyValue D))
  | other (object : ℕ)

abbrev PyMapping (D : Type) := List (String × PyValue D)

/-- **What the viewer uses of Python, numpy and hashlib.** A digest is only compared. -/
structure TelemetryLibrary (D Digest SampleKey EnvelopeKey : Type) where
  asarray : PyValue D → Except Raised (NdArray D)
  str : PyValue D → String
  float : PyValue D → Except Raised D
  det : Matrix 3 D → D
  gram : Matrix 3 D → Matrix 3 D
  payloadDigest : PyValue D → Except Raised Digest
  sampleDigest : SampleKey → Except Raised Digest
  envelopeDigest : EnvelopeKey → Except Raised Digest

variable {D : Type}

def asObject (value : PyValue D) (name : String) : Except Raised (PyMapping D) :=
  match value with
  | .mapping entries => .ok entries
  | _ => .error (telemetryError (name ++ " must be a JSON object"))

/-- `mapping[key]` of a mapping whose keys have been checked. -/
def item (mapping : PyMapping D) (key : String) : PyValue D := (mapping.lookup key).getD .none

def hasKey (mapping : PyMapping D) (key : String) : Bool := (mapping.lookup key).isSome

def sortedNames (names : List String) : String :=
  ", ".intercalate (names.mergeSort fun a b => decide (a ≤ b))

def exactKeys (mapping : PyMapping D) (name : String) (required : List String)
    (optional : List String) : Except Raised Unit :=
  let missing := required.filter fun key => !hasKey mapping key
  let extra := (mapping.map Prod.fst).filter fun key => decide (key ∉ required ++ optional)
  if missing ≠ [] then
    .error (telemetryError (name ++ " is missing " ++ sortedNames missing))
  else if extra ≠ [] then
    .error (telemetryError (name ++ " has unsupported fields " ++ sortedNames extra))
  else .ok ()

def nonnegativeInteger (value : PyValue D) (name : String) : Except Raised ℕ :=
  match value with
  | .int n =>
    if n < 0 then .error (telemetryError (name ++ " must be non-negative")) else .ok n.toNat
  | _ => .error (telemetryError (name ++ " must be an integer"))

def sixItems (value : PyValue D) (name : String) : Except Raised (List (PyValue D)) :=
  let malformed := telemetryError (name ++ " must contain six integers")
  match value with
  | .list items | .tuple items => if items.length = 6 then .ok items else .error malformed
  | _ => .error malformed

/-- **Six `ANGLE_ACT` registers.** -/
abbrev HandAngles := Vec 6 (Fin 1001)

def angleAct (value : PyValue D) : Except Raised (Fin 1001) := do
  let numeric ← nonnegativeInteger value "hand ANGLE_ACT"
  if h : numeric < 1001 then return ⟨numeric, h⟩
  else .error (telemetryError "hand ANGLE_ACT must be in [0,1000]")

def sixAngleAct (value : PyValue D) : Except Raised HandAngles := do
  let items ← sixItems value "hand angles"
  let angles ← items.mapM angleAct
  return fun i => angles.getD i.1 0

/-- One value of `_six_native_integers`. -/
def nativeInteger (name : String) (minimum maximum : Option ℤ) (value : PyValue D) :
    Except Raised ℤ :=
  match value with
  | .int n =>
    if minimum.any fun bound => decide (n < bound) then
      .error (telemetryError (name ++ " is below its minimum"))
    else if maximum.any fun bound => decide (n > bound) then
      .error (telemetryError (name ++ " exceeds its maximum"))
    else .ok n
  | _ => .error (telemetryError (name ++ " must contain six integers"))

def sixNativeIntegers (value : PyValue D) (name : String) (minimum maximum : Option ℤ) :
    Except Raised (List ℤ) := do
  let items ← sixItems value name
  items.mapM (nativeInteger name minimum maximum)

/-! ## Identities -/

def isLowerHex (c : Char) : Bool := c.isDigit || ('a' ≤ c && c ≤ 'f')

def isHex (c : Char) : Bool := c.isDigit || ('a' ≤ c && c ≤ 'f') || ('A' ≤ c && c ≤ 'F')

/-- The 32 digits that `uuid.UUID` reads from a text. -/
def uuidDigits (value : String) : List Char :=
  let text := (value.replace "urn:" "").replace "uuid:" ""
  let isBrace (c : Char) : Bool := c = '\x7b' || c = '\x7d'
  let stripped := ((text.toList.dropWhile isBrace).reverse.dropWhile isBrace).reverse
  stripped.filter fun c => c ≠ '-'

def isCanonicalUuid (value : String) : Bool :=
  value.toList.length = 36 && value.toList.zipIdx.all fun (c, i) =>
    if i ∈ [8, 13, 18, 23] then decide (c = '-') else isLowerHex c

def canonicalUuid (value : PyValue D) : Except Raised String :=
  let malformed := telemetryError "run_uuid must be a canonical UUID string"
  match value with
  | .str text =>
    if isCanonicalUuid text then .ok text
    else if (uuidDigits text).length = 32 ∧ (uuidDigits text).all isHex then
      .error (telemetryError "run_uuid must use canonical lowercase hyphenated form")
    else .error malformed
  | _ => .error malformed

def sha256Text (value : PyValue D) (name : String) : Except Raised String :=
  let malformed := telemetryError (name ++ " must be lowercase SHA-256")
  match value with
  | .str text =>
    if text.toList.length = 64 ∧ text.toList.all isLowerHex then .ok text else .error malformed
  | _ => .error malformed

/-- **`TelemetryIdentity`.** -/
structure TelemetryIdentity where
  runUuid : String
  executionContractSha256 : String
  sourceSnapshotSha256 : String
  controlConfigSha256 : String
  calibrationSha256 : String
  producerBuildSha256 : String
deriving DecidableEq, Repr

def identityFields : List String :=
  ["run_uuid", "execution_contract_sha256", "source_snapshot_sha256", "control_config_sha256",
    "calibration_sha256", "producer_build_sha256"]

/-- The constructor of `TelemetryIdentity` on the fields of a mapping. -/
def identityOf (mapping : PyMapping D) : Except Raised TelemetryIdentity := do
  let runUuid ← canonicalUuid (item mapping "run_uuid")
  let digest (name : String) := sha256Text (item mapping name) name
  let executionContract ← digest "execution_contract_sha256"
  let sourceSnapshot ← digest "source_snapshot_sha256"
  let controlConfig ← digest "control_config_sha256"
  let calibration ← digest "calibration_sha256"
  let producerBuild ← digest "producer_build_sha256"
  return ⟨runUuid, executionContract, sourceSnapshot, controlConfig, calibration, producerBuild⟩

def identityFromMapping (value : PyValue D) (name : String) :
    Except Raised TelemetryIdentity := do
  let mapping ← asObject value name
  exactKeys mapping name identityFields []
  identityOf mapping

/-! ## Rigid transforms -/

section Rigid

variable [FloatArith D] {Digest SampleKey EnvelopeKey : Type}
  (lib : TelemetryLibrary D Digest SampleKey EnvelopeKey)

/-- `np.allclose` of one pair of finite numbers with `rtol=0.0`. -/
def closeTo (x y : D) (tolerance : ℚ) : Bool :=
  decide (FloatArith.abs (x - y) ≤ (FloatArith.ofRat tolerance : D))

/-- **`validate_rigid_transform`.** -/
def validateRigidTransform (value : NdArray D) (name : String) : Except Raised (Matrix 4 D) := do
  raiseIf (value.shape ≠ [4, 4]) (valueError (name ++ " must have shape (4, 4)"))
  raiseIf (value.allFinite = false) (valueError (name ++ " contains NaN or infinity"))
  let matrix : Matrix 4 D := fun i j => value.entry (i * 4 + j)
  raiseIf (∃ j : Fin 4, closeTo (matrix 3 j) (FloatArith.ofRat (if j = 3 then 1 else 0))
      (1 / 10 ^ 8) = false)
    (valueError (name ++ " has an invalid homogeneous bottom row"))
  let rotation : Matrix 3 D := fun i j => matrix i.castSucc j.castSucc
  raiseIf (∃ i j : Fin 3, closeTo (lib.gram rotation i j)
      (FloatArith.ofRat (if i = j then 1 else 0)) (1 / 10 ^ 6) = false)
    (valueError (name ++ " rotation is not orthonormal"))
  raiseIf (closeTo (lib.det rotation) (FloatArith.ofRat 1) (1 / 10 ^ 6) = false)
    (valueError (name ++ " rotation determinant must be +1"))
  return matrix

end Rigid

end FrankaDeploy.ViewerTelemetry
