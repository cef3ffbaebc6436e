import FilterAssist.Binary64.Decimal

set_option autoImplicit false

/-!
Geographic values: boxes, circles and polygons, read from and written as `lat,lng` points joined by
colons.
-/
namespace FilterAssist

inductive GeoShape where
  | box
  | radius
  | polygon
deriving DecidableEq, Repr

namespace GeoShape

def all : List GeoShape :=
  [.box, .radius, .polygon]

def name : GeoShape → String
  | .box => "box"
  | .radius => "radius"
  | .polygon => "polygon"

def ofName? (name : String) : Option GeoShape :=
  all.find? fun shape => shape.name == name

def ofOperator? (operator : Text) : Option GeoShape :=
  all.find? fun shape => "geo_".toList ++ shape.name.toList == operator.asciiLower

def expectedParts : GeoShape → String
  | .box => "2"
  | .radius => "2"
  | .polygon => "at least 3"

end GeoShape

inductive GeoError where
  | partCount (shape : GeoShape) (found : Nat)
  | coordinate (text : Text)
  | number (text : Text)
  | latitude (value : Binary64)
  | longitude (value : Binary64)
  | radius (value : Binary64)
deriving DecidableEq, Repr

def GeoError.message : GeoError → Text
  | .partCount shape found =>
    shape.name.toList ++ " value needs ".toList ++ shape.expectedParts.toList ++
      " `:` separated parts, found ".toList ++ Text.ofNat found
  | .coordinate text => "expected `lat,lng`, found `".toList ++ text ++ "`".toList
  | .number text => "invalid number `".toList ++ text ++ "`".toList
  | .latitude value => "latitude ".toList ++ value.toText ++ " is outside -90..=90".toList
  | .longitude value => "longitude ".toList ++ value.toText ++ " is outside -180..=180".toList
  | .radius value =>
    "radius must be a positive number of kilometers, found ".toList ++ value.toText

structure GeoPoint where
  lat : Binary64
  lng : Binary64
deriving DecidableEq, Repr

def withinDegrees (bound : Nat) (value : Binary64) : Bool :=
  (Binary64.ofInt (-bound)).le value && value.le (Binary64.ofInt bound)

def readCoordinate (text : Text) : Except GeoError Binary64 :=
  match Binary64.ofText? text.trim with
  | some value => .ok value
  | none => .error (.number text.trim)

namespace GeoPoint

def make (lat lng : Binary64) : Except GeoError GeoPoint :=
  if !withinDegrees 90 lat then .error (.latitude lat)
  else if !withinDegrees 180 lng then .error (.longitude lng)
  else .ok ⟨lat, lng⟩

def ofText (text : Text) : Except GeoError GeoPoint :=
  match text.splitOn ',' with
  | [lat, lng] => do
    let lat ← readCoordinate lat
    let lng ← readCoordinate lng
    make lat lng
  | _ => .error (.coordinate text)

def toText (point : GeoPoint) : Text :=
  point.lat.toText ++ [','] ++ point.lng.toText

def same (a b : GeoPoint) : Bool :=
  a.lat.same b.lat && a.lng.same b.lng

end GeoPoint

inductive GeoValue where
  | box (northWest southEast : GeoPoint)
  | radius (center : GeoPoint) (kilometers : Binary64)
  | polygon (points : List GeoPoint)
deriving DecidableEq, Repr

def readPoints : List Text → Except GeoError (List GeoPoint)
  | [] => .ok []
  | text :: texts => do
    let point ← GeoPoint.ofText text
    let points ← readPoints texts
    .ok (point :: points)

namespace GeoValue

def shape : GeoValue → GeoShape
  | .box _ _ => .box
  | .radius _ _ => .radius
  | .polygon _ => .polygon

def boxAround (a b : GeoPoint) : GeoValue :=
  .box ⟨a.lat.max b.lat, a.lng.min b.lng⟩ ⟨a.lat.min b.lat, a.lng.max b.lng⟩

def ofParts (shape : GeoShape) (parts : List Text) : Except GeoError GeoValue :=
  match shape, parts with
  | .box, [first, second] => do
    let a ← GeoPoint.ofText first
    let b ← GeoPoint.ofText second
    .ok (boxAround a b)
  | .radius, [first, second] => do
    let center ← GeoPoint.ofText first
    let kilometers ← readCoordinate second
    if kilometers.le (.ofInt 0) || !kilometers.isFinite then .error (.radius kilometers)
    else .ok (.radius center kilometers)
  | .polygon, a :: b :: c :: more => do
    let points ← readPoints (a :: b :: c :: more)
    .ok (.polygon points)
  | shape, parts => .error (.partCount shape parts.length)

def ofText (shape : GeoShape) (text : Text) : Except GeoError GeoValue :=
  ofParts shape (text.trim.splitOn ':')

def toText : GeoValue → Text
  | .box northWest southEast => northWest.toText ++ [':'] ++ southEast.toText
  | .radius center kilometers => center.toText ++ [':'] ++ kilometers.toText
  | .polygon points => Text.joinWith [':'] (points.map GeoPoint.toText)

def same : GeoValue → GeoValue → Bool
  | .box a b, .box c d => a.same c && b.same d
  | .radius a x, .radius b y => a.same b && x.same y
  | .polygon as, .polygon bs =>
    as.length == bs.length && (as.zip bs).all fun pair => pair.1.same pair.2
  | _, _ => false

end GeoValue

end FilterAssist
