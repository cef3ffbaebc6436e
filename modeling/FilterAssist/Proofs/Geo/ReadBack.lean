import Mathlib
import FilterAssist.Geo
import FilterAssist.Proofs.Binary64.DecimalText
import FilterAssist.Proofs.Text.Pieces

set_option autoImplicit false

/-!
Geographic values that were read. Their coordinates are finite and lie on the globe, boxes have their corners in
order, circles have a positive radius and polygons at least three points. Written out, a value is read back as it
is: its text has the right separators and no others, its numbers come back from their digits, and corners that
are in order stay where they are.
-/
namespace FilterAssist

theorem bind_ok_iff {ε α β : Type} (result : Except ε α) (next : α → Except ε β) (value : β) :
    (result >>= next) = .ok value ↔ ∃ first, result = .ok first ∧ next first = .ok value := by
  cases result with
  | error error => simp [bind, Except.bind]
  | ok first => simp [bind, Except.bind]

namespace Binary64

def Between (number : Binary64) (low high : ℚ) : Prop :=
  ∃ value, number.toRat? = some value ∧ low ≤ value ∧ value ≤ high

def AtMost (a b : Binary64) : Prop :=
  ∃ p q, a.toRat? = some p ∧ b.toRat? = some q ∧ p ≤ q

def Positive (number : Binary64) : Prop :=
  ∃ value, number.toRat? = some value ∧ 0 < value

theorem finite_to_rat (number : Binary64) : number.isFinite = true ↔ ∃ value, number.toRat? = some value := by
  cases number with
  | nan => exact ⟨nofun, nofun⟩
  | infinite negative => exact ⟨nofun, nofun⟩
  | finite negative units => exact ⟨fun _ => ⟨_, rfl⟩, fun _ => rfl⟩

theorem finite_between (a b number : Binary64) (left : a.isFinite = true) (right : b.isFinite = true)
    (above : a.le number = true) (below : number.le b = true) : number.isFinite = true := by
  cases a with
  | nan => cases left
  | infinite negative => cases left
  | finite negative units =>
      cases b with
      | nan => cases right
      | infinite other => cases right
      | finite other more =>
          cases number with
          | nan => cases above
          | infinite sign => cases sign <;> simp [le] at above below
          | finite sign count => rfl

theorem within_degrees_iff (bound : Nat) (small : bound ≤ 2 ^ 53) (number : Binary64) :
    withinDegrees bound number = true ↔ number.Between (-bound) bound := by
  have high : (ofInt bound).toRat? = some (bound : ℚ) := by
    simpa using of_int_to_rat bound (by simpa using small)
  have low : (ofInt (-bound)).toRat? = some (-bound : ℚ) := by
    simpa using of_int_to_rat (-bound) (by simpa using small)
  rw [withinDegrees, Bool.and_eq_true]
  constructor
  · rintro ⟨above, below⟩
    have finite := finite_between _ _ number ((finite_to_rat _).mpr ⟨_, low⟩) ((finite_to_rat _).mpr ⟨_, high⟩) above below
    obtain ⟨value, worth⟩ := (finite_to_rat number).mp finite
    exact ⟨value, worth, (le_to_rat _ _ _ _ low worth).mp above, (le_to_rat _ _ _ _ worth high).mp below⟩
  · rintro ⟨value, worth, above, below⟩
    exact ⟨(le_to_rat _ _ _ _ low worth).mpr above, (le_to_rat _ _ _ _ worth high).mpr below⟩

theorem lt_to_rat (a b : Binary64) (p q : ℚ) (left : a.toRat? = some p) (right : b.toRat? = some q) :
    a.lt b = true ↔ p < q := by
  rw [lt, Bool.and_eq_true, le_to_rat a b p q left right, Bool.not_eq_true', ← Bool.not_eq_true,
    le_to_rat b a q p right left, ← lt_iff_le_not_ge]

theorem same_to_rat (a b : Binary64) (p q : ℚ) (left : a.toRat? = some p) (right : b.toRat? = some q) :
    a.same b = true ↔ p = q := by
  rw [same, Bool.and_eq_true, le_to_rat a b p q left right, le_to_rat b a q p right left, le_antisymm_iff]

theorem max_min_cases (a b : Binary64) (p q : ℚ) (left : a.toRat? = some p) (right : b.toRat? = some q) :
    (p < q ∧ a.max b = b ∧ a.min b = a) ∨ (q < p ∧ a.max b = a ∧ a.min b = b) ∨
      (p = q ∧ a.max b = a ∧ a.min b = a) := by
  have below := lt_to_rat a b p q left right
  have above := lt_to_rat b a q p right left
  rcases lt_trichotomy p q with less | same | more
  · exact .inl ⟨less, by simp [max, below.mpr less], by simp [min, mt above.mp less.not_gt]⟩
  · exact .inr (.inr ⟨same, by simp [max, mt below.mp same.not_lt], by simp [min, mt above.mp same.not_gt]⟩)
  · exact .inr (.inl ⟨more, by simp [max, mt below.mp more.not_gt], by simp [min, above.mpr more]⟩)

theorem max_min_either (a b : Binary64) : (a.max b = a ∨ a.max b = b) ∧ (a.min b = a ∨ a.min b = b) := by
  constructor
  · by_cases less : a.lt b = true <;> simp [max, less]
  · by_cases less : b.lt a = true <;> simp [min, less]

theorem min_at_most_max (a b : Binary64) (p q : ℚ) (left : a.toRat? = some p) (right : b.toRat? = some q) :
    (a.min b).AtMost (a.max b) := by
  rcases max_min_cases a b p q left right with ⟨less, isMax, isMin⟩ | ⟨more, isMax, isMin⟩ | ⟨_, isMax, isMin⟩
  · rw [isMax, isMin]
    exact ⟨p, q, left, right, less.le⟩
  · rw [isMax, isMin]
    exact ⟨q, p, right, left, more.le⟩
  · rw [isMax, isMin]
    exact ⟨p, p, left, left, le_rfl⟩

theorem max_min_settled (a b : Binary64) (p q : ℚ) (left : a.toRat? = some p) (right : b.toRat? = some q) :
    (a.max b).max (a.min b) = a.max b ∧ (a.max b).min (a.min b) = a.min b ∧
      (a.min b).min (a.max b) = a.min b ∧ (a.min b).max (a.max b) = a.max b := by
  have itself := max_min_cases a a p p left left
  have turned := max_min_cases b a q p right left
  rcases max_min_cases a b p q left right with ⟨less, isMax, isMin⟩ | ⟨more, isMax, isMin⟩ | ⟨same, isMax, isMin⟩
  · rcases turned with ⟨other, _⟩ | ⟨_, max, min⟩ | ⟨other, _⟩
    · exact absurd other less.not_gt
    · rw [isMax, isMin]
      exact ⟨max, min, isMin, isMax⟩
    · exact absurd other less.ne'
  · rcases turned with ⟨_, max, min⟩ | ⟨other, _⟩ | ⟨other, _⟩
    · rw [isMax, isMin]
      exact ⟨isMax, isMin, min, max⟩
    · exact absurd other more.not_gt
    · exact absurd other more.ne
  · rcases itself with ⟨_, max, min⟩ | ⟨_, max, min⟩ | ⟨_, max, min⟩ <;>
      (rw [isMax, isMin]; exact ⟨max, min, min, max⟩)

end Binary64

def Printed (text : Text) : Prop :=
  ∀ c ∈ text, isBlank c = false ∧ c ≠ ':'

theorem digit_printed (c : Char) (digit : isDigit c = true) : isBlank c = false ∧ c ≠ ':' ∧ c ≠ ',' := by
  rw [isDigit, Bool.and_eq_true, decide_eq_true_eq, decide_eq_true_eq] at digit
  have low : 48 ≤ c.toNat := digit.1
  have high : c.toNat ≤ 57 := digit.2
  refine ⟨?_, ?_, ?_⟩
  · by_contra blank
    have code := blank_code c (by simpa using blank)
    omega
  · rintro rfl
    exact absurd high (by decide)
  · rintro rfl
    exact absurd low (by decide)

structure Binary64.Settled (number : Binary64) : Prop where
  rounded : number.Rounded
  finite : number.isFinite = true

theorem number_printed (number : Binary64) (settled : number.Settled) : Printed number.toText ∧ ',' ∉ number.toText := by
  have plain (c : Char) (member : c ∈ number.toText) : isBlank c = false ∧ c ≠ ':' ∧ c ≠ ',' := by
    rcases Binary64.to_text_characters number settled.rounded settled.finite c member with digit | rfl | rfl
    · exact digit_printed c digit
    · decide
    · decide
  exact ⟨fun c member => ⟨(plain c member).1, (plain c member).2.1⟩, fun member => (plain ',' member).2.2 rfl⟩

theorem read_coordinate_iff (text : Text) (number : Binary64) :
    readCoordinate text = .ok number ↔ Binary64.ofText? text.trim = some number := by
  rw [readCoordinate]
  cases Binary64.ofText? text.trim <;> simp

theorem number_read_back (number : Binary64) (settled : number.Settled) : readCoordinate number.toText = .ok number := by
  rw [read_coordinate_iff, trim_solid _ fun c member => ((number_printed number settled).1 c member).1]
  exact Binary64.to_text_reads_back number settled.rounded settled.finite

theorem between_settled (text : Text) (number : Binary64) (low high : ℚ) (read : readCoordinate text = .ok number)
    (between : number.Between low high) : number.Settled := by
  obtain ⟨value, worth, _⟩ := between
  exact ⟨Binary64.of_text_rounded _ number ((read_coordinate_iff text number).mp read),
    (Binary64.finite_to_rat number).mpr ⟨value, worth⟩⟩

def GeoPoint.OnGlobe (point : GeoPoint) : Prop :=
  point.lat.Between (-90) 90 ∧ point.lng.Between (-180) 180

structure GeoPoint.Settled (point : GeoPoint) : Prop where
  lat : point.lat.Settled
  lng : point.lng.Settled
  onGlobe : point.OnGlobe

theorem make_iff (lat lng : Binary64) (point : GeoPoint) :
    GeoPoint.make lat lng = .ok point ↔ point = ⟨lat, lng⟩ ∧ point.OnGlobe := by
  have latitude : withinDegrees 90 lat = true ↔ lat.Between (-90) 90 := by
    simpa using Binary64.within_degrees_iff 90 (by decide) lat
  have longitude : withinDegrees 180 lng = true ↔ lng.Between (-180) 180 := by
    simpa using Binary64.within_degrees_iff 180 (by decide) lng
  constructor
  · intro made
    by_cases high : withinDegrees 90 lat = true
    · by_cases wide : withinDegrees 180 lng = true
      · simp only [GeoPoint.make, high, wide, Bool.not_true, Bool.false_eq_true, if_false, Except.ok.injEq] at made
        rw [← made]
        exact ⟨rfl, latitude.mp high, longitude.mp wide⟩
      · simp [GeoPoint.make, high, wide] at made
    · simp [GeoPoint.make, high] at made
  · rintro ⟨rfl, high, wide⟩
    simp [GeoPoint.make, latitude.mpr high, longitude.mpr wide]

theorem point_iff (text : Text) (point : GeoPoint) :
    GeoPoint.ofText text = .ok point ↔
      ∃ lat lng, Text.splitOn ',' text = [lat, lng] ∧ readCoordinate lat = .ok point.lat ∧
        readCoordinate lng = .ok point.lng ∧ point.OnGlobe := by
  rw [GeoPoint.ofText]
  split
  · rename_i lat lng parts
    simp only [bind_ok_iff, make_iff]
    constructor
    · rintro ⟨a, readLat, b, readLng, rfl, onGlobe⟩
      exact ⟨lat, lng, parts, readLat, readLng, onGlobe⟩
    · rintro ⟨first, second, same, readLat, readLng, onGlobe⟩
      rw [parts] at same
      cases same
      exact ⟨_, readLat, _, readLng, rfl, onGlobe⟩
  · rename_i other
    constructor
    · exact nofun
    · rintro ⟨lat, lng, parts, _⟩
      exact absurd parts (other lat lng)

theorem point_settled (text : Text) (point : GeoPoint) (read : GeoPoint.ofText text = .ok point) : point.Settled := by
  obtain ⟨lat, lng, _, readLat, readLng, onGlobe⟩ := (point_iff text point).mp read
  exact ⟨between_settled lat _ _ _ readLat onGlobe.1, between_settled lng _ _ _ readLng onGlobe.2, onGlobe⟩

theorem point_printed (point : GeoPoint) (settled : point.Settled) : Printed point.toText := by
  intro c member
  rw [GeoPoint.toText, List.mem_append, List.mem_append, List.mem_singleton] at member
  rcases member with (lat | rfl) | lng
  · exact (number_printed point.lat settled.lat).1 c lat
  · decide
  · exact (number_printed point.lng settled.lng).1 c lng

theorem point_read_back (point : GeoPoint) (settled : point.Settled) : GeoPoint.ofText point.toText = .ok point := by
  have parts : Text.splitOn ',' point.toText = [point.lat.toText, point.lng.toText] := by
    rw [GeoPoint.toText, List.append_assoc, List.singleton_append,
      split_on_piece _ _ _ (number_printed point.lat settled.lat).2,
      split_on_whole _ _ (number_printed point.lng settled.lng).2]
  exact (point_iff _ point).mpr ⟨_, _, parts, number_read_back _ settled.lat, number_read_back _ settled.lng,
    settled.onGlobe⟩

theorem read_points_iff (texts : List Text) (points : List GeoPoint) :
    readPoints texts = .ok points ↔ List.Forall₂ (fun text point => GeoPoint.ofText text = .ok point) texts points := by
  induction texts generalizing points with
  | nil => simp [readPoints, eq_comm]
  | cons text texts ih =>
      simp only [readPoints, bind_ok_iff, ih, List.forall₂_cons_left_iff, Except.ok.injEq]
      constructor
      · rintro ⟨point, first, rest, later, rfl⟩
        exact ⟨point, rest, first, later, rfl⟩
      · rintro ⟨point, rest, first, later, rfl⟩
        exact ⟨point, first, rest, later, rfl⟩

namespace GeoValue

theorem box_iff (parts : List Text) (value : GeoValue) :
    ofParts .box parts = .ok value ↔
      ∃ first second a b, parts = [first, second] ∧ GeoPoint.ofText first = .ok a ∧ GeoPoint.ofText second = .ok b ∧
        value = boxAround a b := by
  constructor
  · intro read
    rcases parts with _ | ⟨first, _ | ⟨second, _ | ⟨third, more⟩⟩⟩
    · simp [ofParts] at read
    · simp [ofParts] at read
    · simp only [ofParts, bind_ok_iff, Except.ok.injEq] at read
      obtain ⟨a, readFirst, b, readSecond, isBox⟩ := read
      exact ⟨first, second, a, b, rfl, readFirst, readSecond, isBox.symm⟩
    · simp [ofParts] at read
  · rintro ⟨first, second, a, b, rfl, readFirst, readSecond, rfl⟩
    simp only [ofParts, bind_ok_iff]
    exact ⟨a, readFirst, b, readSecond, rfl⟩

theorem positive_iff (number : Binary64) :
    (number.le (.ofInt 0) || !number.isFinite) = false ↔ number.Positive := by
  have zero : (Binary64.ofInt 0).toRat? = some 0 := by simpa using Binary64.of_int_to_rat 0 (by decide)
  rw [Bool.or_eq_false_iff, Bool.not_eq_false', ← Bool.not_eq_true]
  constructor
  · rintro ⟨above, finite⟩
    obtain ⟨value, worth⟩ := (Binary64.finite_to_rat number).mp finite
    rw [Binary64.le_to_rat _ _ _ _ worth zero, not_le] at above
    exact ⟨value, worth, above⟩
  · rintro ⟨value, worth, above⟩
    rw [Binary64.le_to_rat _ _ _ _ worth zero, not_le]
    exact ⟨above, (Binary64.finite_to_rat number).mpr ⟨value, worth⟩⟩

theorem radius_iff (parts : List Text) (value : GeoValue) :
    ofParts .radius parts = .ok value ↔
      ∃ first second center kilometers, parts = [first, second] ∧ GeoPoint.ofText first = .ok center ∧
        readCoordinate second = .ok kilometers ∧ kilometers.Positive ∧ value = .radius center kilometers := by
  constructor
  · intro read
    rcases parts with _ | ⟨first, _ | ⟨second, _ | ⟨third, more⟩⟩⟩
    · simp [ofParts] at read
    · simp [ofParts] at read
    · simp only [ofParts, bind_ok_iff] at read
      obtain ⟨center, readFirst, kilometers, readSecond, rest⟩ := read
      split at rest
      · cases rest
      · rename_i accepted
        exact ⟨first, second, center, kilometers, rfl, readFirst, readSecond,
          (positive_iff kilometers).mp (by simpa using accepted), (Except.ok.inj rest).symm⟩
    · simp [ofParts] at read
  · rintro ⟨first, second, center, kilometers, rfl, readFirst, readSecond, positive, rfl⟩
    simp only [ofParts, bind_ok_iff]
    refine ⟨center, readFirst, kilometers, readSecond, ?_⟩
    rw [(positive_iff kilometers).mpr positive]
    rfl

theorem polygon_iff (parts : List Text) (value : GeoValue) :
    ofParts .polygon parts = .ok value ↔
      ∃ points, 3 ≤ parts.length ∧ List.Forall₂ (fun text point => GeoPoint.ofText text = .ok point) parts points ∧
        value = .polygon points := by
  constructor
  · intro read
    rcases parts with _ | ⟨first, _ | ⟨second, _ | ⟨third, more⟩⟩⟩
    · simp [ofParts] at read
    · simp [ofParts] at read
    · simp [ofParts] at read
    · simp only [ofParts, bind_ok_iff, read_points_iff, Except.ok.injEq] at read
      obtain ⟨points, readAll, isPolygon⟩ := read
      exact ⟨points, by simp, readAll, isPolygon.symm⟩
  · rintro ⟨points, many, readAll, rfl⟩
    rcases parts with _ | ⟨first, _ | ⟨second, _ | ⟨third, more⟩⟩⟩
    · simp at many
    · simp at many
    · simp at many
    · simp only [ofParts, bind_ok_iff, read_points_iff]
      exact ⟨points, readAll, rfl⟩

def points : GeoValue → List GeoPoint
  | .box northWest southEast => [northWest, southEast]
  | .radius center _ => [center]
  | .polygon points => points

def Proper : GeoValue → Prop
  | .box northWest southEast => southEast.lat.AtMost northWest.lat ∧ northWest.lng.AtMost southEast.lng
  | .radius _ kilometers => kilometers.Positive
  | .polygon points => 3 ≤ points.length

theorem point_same (point : GeoPoint) (settled : point.Settled) : point.same point = true := by
  obtain ⟨⟨lat, worthLat, _⟩, ⟨lng, worthLng, _⟩⟩ := settled.onGlobe
  rw [GeoPoint.same, Bool.and_eq_true]
  exact ⟨(Binary64.same_to_rat _ _ _ _ worthLat worthLat).mpr rfl, (Binary64.same_to_rat _ _ _ _ worthLng worthLng).mpr rfl⟩

theorem of_text_joined (shape : GeoShape) (parts : List Text) (filled : parts ≠ [])
    (printed : ∀ part ∈ parts, Printed part) : ofText shape (Text.joinWith [':'] parts) = ofParts shape parts := by
  have solid : ∀ c ∈ Text.joinWith [':'] parts, isBlank c = false := by
    intro c member
    rcases join_with_mem _ _ c member with colon | ⟨part, present, inside⟩
    · rw [List.mem_singleton.mp colon]
      decide
    · exact (printed part present c inside).1
  rw [ofText, trim_solid _ solid, split_on_join ':' parts filled]
  exact fun part present colon => (printed part present ':' colon).2 rfl

theorem corner_settled (a b : GeoPoint) (lat lng : Binary64) (left : a.Settled) (right : b.Settled)
    (isLat : lat = a.lat ∨ lat = b.lat) (isLng : lng = a.lng ∨ lng = b.lng) : GeoPoint.Settled ⟨lat, lng⟩ := by
  have latitude : lat.Settled ∧ lat.Between (-90) 90 := by
    rcases isLat with rfl | rfl
    · exact ⟨left.lat, left.onGlobe.1⟩
    · exact ⟨right.lat, right.onGlobe.1⟩
  have longitude : lng.Settled ∧ lng.Between (-180) 180 := by
    rcases isLng with rfl | rfl
    · exact ⟨left.lng, left.onGlobe.2⟩
    · exact ⟨right.lng, right.onGlobe.2⟩
  exact ⟨latitude.1, longitude.1, latitude.2, longitude.2⟩

structure Faithful (shape : GeoShape) (value : GeoValue) : Prop where
  isShape : value.shape = shape
  settled : ∀ point ∈ value.points, point.Settled
  proper : value.Proper
  readBack : ofText shape value.toText = .ok value
  same : value.same value = true

theorem box_faithful (parts : List Text) (value : GeoValue) (read : ofParts .box parts = .ok value) :
    Faithful .box value := by
  obtain ⟨first, second, a, b, _, readFirst, readSecond, rfl⟩ := (box_iff parts value).mp read
  have left := point_settled first a readFirst
  have right := point_settled second b readSecond
  obtain ⟨⟨latA, worthLatA, _⟩, ⟨lngA, worthLngA, _⟩⟩ := left.onGlobe
  obtain ⟨⟨latB, worthLatB, _⟩, ⟨lngB, worthLngB, _⟩⟩ := right.onGlobe
  have lats := Binary64.max_min_either a.lat b.lat
  have lngs := Binary64.max_min_either a.lng b.lng
  obtain ⟨northWest, isNorthWest⟩ : ∃ point, point = GeoPoint.mk (a.lat.max b.lat) (a.lng.min b.lng) := ⟨_, rfl⟩
  obtain ⟨southEast, isSouthEast⟩ : ∃ point, point = GeoPoint.mk (a.lat.min b.lat) (a.lng.max b.lng) := ⟨_, rfl⟩
  have shape : boxAround a b = .box northWest southEast := by rw [isNorthWest, isSouthEast, boxAround]
  -- The corners are in order, so that putting them in order again changes nothing.
  have normal : boxAround northWest southEast = .box northWest southEast := by
    obtain ⟨north, south, _⟩ := Binary64.max_min_settled a.lat b.lat latA latB worthLatA worthLatB
    obtain ⟨_, _, west, east⟩ := Binary64.max_min_settled a.lng b.lng lngA lngB worthLngA worthLngB
    simp only [boxAround, isNorthWest, isSouthEast, north, south, west, east]
  have corner : northWest.Settled := by
    rw [isNorthWest]
    exact corner_settled a b _ _ left right lats.1 lngs.2
  have opposite : southEast.Settled := by
    rw [isSouthEast]
    exact corner_settled a b _ _ left right lats.2 lngs.1
  rw [shape]
  refine ⟨rfl, by simp [points, corner, opposite], ?_, ?_, ?_⟩
  · rw [isNorthWest, isSouthEast]
    exact ⟨Binary64.min_at_most_max _ _ _ _ worthLatA worthLatB, Binary64.min_at_most_max _ _ _ _ worthLngA worthLngB⟩
  · have joined : toText (.box northWest southEast) = Text.joinWith [':'] [northWest.toText, southEast.toText] := rfl
    rw [joined, of_text_joined _ _ (by simp) (by simp [point_printed, corner, opposite])]
    exact (box_iff _ _).mpr ⟨_, _, northWest, southEast, rfl, point_read_back _ corner, point_read_back _ opposite,
      normal.symm⟩
  · simp [same, point_same, corner, opposite]

theorem radius_faithful (parts : List Text) (value : GeoValue) (read : ofParts .radius parts = .ok value) :
    Faithful .radius value := by
  obtain ⟨first, second, center, kilometers, _, readFirst, readSecond, positive, rfl⟩ := (radius_iff parts value).mp read
  have settled := point_settled first center readFirst
  have ⟨size, worth, _⟩ := positive
  have steady : kilometers.Settled :=
    between_settled second kilometers size size readSecond ⟨size, worth, le_rfl, le_rfl⟩
  refine ⟨rfl, by simp [points, settled], positive, ?_, ?_⟩
  · have joined : toText (.radius center kilometers) = Text.joinWith [':'] [center.toText, kilometers.toText] := rfl
    rw [joined, of_text_joined _ _ (by simp) (by simp [point_printed, settled, number_printed, steady])]
    exact (radius_iff _ _).mpr ⟨_, _, center, kilometers, rfl, point_read_back _ settled, number_read_back _ steady,
      positive, rfl⟩
  · simp [same, point_same, settled, (Binary64.same_to_rat _ _ _ _ worth worth).mpr rfl]

theorem points_settled (texts : List Text) (points : List GeoPoint)
    (read : List.Forall₂ (fun text point => GeoPoint.ofText text = .ok point) texts points) :
    ∀ point ∈ points, point.Settled := by
  induction read with
  | nil => exact fun point member => absurd member List.not_mem_nil
  | cons first _ ih => exact List.forall_mem_cons.mpr ⟨point_settled _ _ first, ih⟩

theorem polygon_faithful (parts : List Text) (value : GeoValue) (read : ofParts .polygon parts = .ok value) :
    Faithful .polygon value := by
  obtain ⟨points, many, readAll, rfl⟩ := (polygon_iff parts value).mp read
  have settled := points_settled parts points readAll
  have count : 3 ≤ points.length := by rwa [← readAll.length_eq]
  refine ⟨rfl, settled, count, ?_, ?_⟩
  · have filled : points.map GeoPoint.toText ≠ [] := by
      intro empty
      rw [List.map_eq_nil_iff.mp empty] at count
      cases count
    rw [toText, of_text_joined _ _ filled]
    · refine (polygon_iff _ _).mpr ⟨points, by rwa [List.length_map], ?_, rfl⟩
      exact List.forall₂_map_left_iff.mpr (List.forall₂_same.mpr fun point member => point_read_back point (settled point member))
    · intro part member
      obtain ⟨point, present, rfl⟩ := List.mem_map.mp member
      exact point_printed point (settled point present)
  · rw [same, Bool.and_eq_true, List.all_eq_true]
    refine ⟨beq_self_eq_true _, fun pair member => ?_⟩
    rw [List.zip_eq_zipWith, List.zipWith_self] at member
    obtain ⟨point, present, rfl⟩ := List.mem_map.mp member
    exact point_same point (settled point present)

theorem read_value_on_globe_and_read_back (shape : GeoShape) (text : Text) (value : GeoValue)
    (read : ofText shape text = .ok value) :
    value.shape = shape ∧
      (∀ point ∈ value.points, point.lat.Between (-90) 90 ∧ point.lng.Between (-180) 180) ∧
      value.Proper ∧
      ofText shape value.toText = .ok value ∧ value.same value = true := by
  have faithful : Faithful shape value := by
    cases shape with
    | box => exact box_faithful _ value read
    | radius => exact radius_faithful _ value read
    | polygon => exact polygon_faithful _ value read
  exact ⟨faithful.isShape, fun point member => (faithful.settled point member).onGlobe, faithful.proper,
    faithful.readBack, faithful.same⟩

theorem read_value_on_globe_and_read_back_box :
    let text := " 40.5, -73.70:41.0 ,-74.2".toList
    let value : GeoValue := .box ⟨.ofDecimal false 41 0, .ofDecimal true 742 (-1)⟩ ⟨.ofDecimal false 405 (-1), .ofDecimal true 737 (-1)⟩
    ofText .box text = .ok value ∧ value.Proper ∧ ofText .box value.toText = .ok value := by
  intro text value
  have read : ofText .box text = .ok value := by
    decide +kernel
  obtain ⟨_, _, proper, readBack, _⟩ := read_value_on_globe_and_read_back .box text value read
  exact ⟨read, proper, readBack⟩

end GeoValue

end FilterAssist
