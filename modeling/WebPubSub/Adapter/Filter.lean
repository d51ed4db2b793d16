import WebPubSub.Library.FilterText
import WebPubSub.Library.Base64Url
import WebPubSub.Packets

/-!
# Group names and recipient filters of the adapter

`web-pubsub-adapter.ts` turns rooms into service groups and selects the
recipients of an operation by an OData filter over group names. The two builders
assemble their text in index-counting loops; each loop is a join, and the text is
a printed filter expression, so its meaning is that of the expression.

The service, `base64url` and the payload encoder are outside the repository.
Strings are sequences of Unicode characters. A JavaScript set is its list of
elements in insertion order, which is the order the loops visit.
-/

namespace WebPubSub.Adapter

/-- A JavaScript `Set<string>`: distinct elements in insertion order. -/
structure RoomSet where
  rooms : List Text
  distinct : rooms.Nodup

namespace RoomSet

def empty : RoomSet := ⟨[], List.nodup_nil⟩

def single (room : Text) : RoomSet := ⟨[room], List.nodup_singleton room⟩

def size (set : RoomSet) : Nat := set.rooms.length

end RoomSet

/-- The `BroadcastOptions` of `socket.io-adapter`, without its flags. -/
structure BroadcastOptions where
  rooms : RoomSet
  except : Option RoomSet

section Names

variable (base64url : Base64Url) (nsp : Text)

/-- `_getGroupName`. An absent and an empty room both stand for the namespace. -/
def getGroupName (room : Option Text) : Text :=
  let ret := "0~".toList ++ base64url.encode nsp ++ "~".toList
  match room with
  | some room => if 0 < room.length then ret ++ base64url.encode room else ret
  | none => ret

/-- One turn of a builder's loop: append a piece, then the separator unless the
index is the last one. -/
def appendPiece (piece : Text → Text) (separator : Text) (size : Nat) :
    Text × Nat → Text → Text × Nat
  | (text, index), room =>
      (text ++ piece room ++ (if index = size - 1 then [] else separator), index + 1)

/-- The loop over all rooms of a set, from the empty string and index zero. -/
def joinLoop (piece : Text → Text) (separator : Text) (set : RoomSet) : Text :=
  (set.rooms.foldl (appendPiece piece separator set.size) ([], 0)).1

/-- The text the first loop appends for one room. -/
def allowPiece (room : Text) : Text :=
  "'".toList ++ getGroupName base64url nsp (some room) ++ "' in groups".toList

/-- The text the second loop appends for one excepted room. -/
def denyPiece (except : Text) : Text :=
  "not ('".toList ++ getGroupName base64url nsp (some except) ++ "' in groups)".toList

/-- `_buildODataFilterForExceptsOnly`. -/
def buildODataFilterForExceptsOnly (excepts : Option RoomSet) : Text :=
  match excepts with
  | some excepts => joinLoop (denyPiece base64url nsp) " and ".toList excepts
  | none => []

/-- `_buildODataFilter`. An empty room set is replaced by the empty room. -/
def buildODataFilter (rooms : RoomSet) (excepts : Option RoomSet) : Text :=
  let rooms := if rooms.size = 0 then RoomSet.single [] else rooms
  let allowFilter := joinLoop (allowPiece base64url nsp) " or ".toList rooms
  let denyFilter :=
    match excepts with
    | some excepts => joinLoop (denyPiece base64url nsp) " and ".toList excepts
    | none => []
  if 0 < allowFilter.length then
    allowFilter ++ (if 0 < denyFilter.length then " and ".toList ++ denyFilter else [])
  else if 0 < denyFilter.length then denyFilter else []

/-! ## The loops are joins -/

/-- From any earlier text and index the loop appends the joined pieces, when the
size counts the rooms still to come. -/
theorem appendPiece_fold (piece : Text → Text) (separator : Text) (rooms : List Text)
    (text : Text) (index size : Nat) (counted : size = index + rooms.length) :
    (rooms.foldl (appendPiece piece separator size) (text, index)).1 =
      text ++ List.intercalate separator (rooms.map piece) := by
  induction rooms generalizing text index with
  | nil => simp [List.intercalate]
  | cons room rest inductionHypothesis =>
    rw [List.foldl_cons, appendPiece, inductionHypothesis _ _ (by simp at counted; omega)]
    cases rest with
    | nil =>
      have last : index = size - 1 := by simp at counted; omega
      simp [last, List.intercalate]
    | cons next more =>
      have earlier : index ≠ size - 1 := by simp at counted; omega
      simp [earlier, List.intercalate, List.append_assoc]

/-- A builder's loop joins the pieces of the set with its separator. -/
theorem joinLoop_eq (piece : Text → Text) (separator : Text) (set : RoomSet) :
    joinLoop piece separator set = List.intercalate separator (set.rooms.map piece) := by
  rw [joinLoop, appendPiece_fold piece separator set.rooms [] 0 set.size (by simp [RoomSet.size])]
  rfl

/-! ## The filter as an expression -/

/-- The test that the loops write for one room. -/
def roomTest (room : Text) : Filter.Expr := .member (getGroupName base64url nsp (some room))

/-- The last allowed room together with all the denials, as `and` groups them. -/
def lastTest (last : Text) (excepts : List Text) : Filter.Expr :=
  excepts.foldl (fun filter except => .and filter (.not (roomTest base64url nsp except)))
    (roomTest base64url nsp last)

/-- The earlier rooms are alternatives to the whole conjunction of the last. -/
def filterExpr : List Text → Text → List Text → Filter.Expr
  | [], last, excepts => lastTest base64url nsp last excepts
  | first :: rest, last, excepts =>
      .or (rest.foldl (fun filter room => .or filter (roomTest base64url nsp room))
        (roomTest base64url nsp first)) (lastTest base64url nsp last excepts)

/-- An absent room is encoded like an empty one, as nothing. -/
theorem getGroupName_eq (emptyText : base64url.encode [] = []) (room : Option Text) :
    getGroupName base64url nsp room =
      "0~".toList ++ (base64url.encode nsp ++ '~' :: base64url.encode (room.getD [])) := by
  cases room with
  | none => simp [getGroupName, emptyText]
  | some room =>
    cases room with
    | nil => simp [getGroupName, emptyText]
    | cons first rest => simp [getGroupName]

/-- Equal names are of one namespace and one room, where no room is the empty one. -/
theorem groupName_eq_iff (emptyText : base64url.encode [] = []) (nsp otherNsp : Text)
    (room otherRoom : Option Text) :
    getGroupName base64url nsp room = getGroupName base64url otherNsp otherRoom ↔
      nsp = otherNsp ∧ room.getD [] = otherRoom.getD [] := by
  have separator := base64url.not_mem_encode (by decide : ¬('~'.isAlphanum = true ∨ _))
  rw [getGroupName_eq base64url nsp emptyText, getGroupName_eq base64url otherNsp emptyText,
    List.append_cancel_left_eq, List.append_cons_inj_of_notMem (separator _) (separator _),
    base64url.injective.eq_iff, base64url.injective.eq_iff]
  exact and_congr_right (fun _ => and_iff_right rfl)

/-- Different rooms have different groups. -/
theorem groupName_inj (emptyText : base64url.encode [] = []) {room otherRoom : Text} :
    getGroupName base64url nsp (some room) = getGroupName base64url nsp (some otherRoom) ↔
      room = otherRoom := by
  rw [groupName_eq_iff base64url emptyText]
  exact and_iff_right rfl

/-- A group name contains no quote, so it is its own escaped literal. -/
theorem escape_groupName (room : Option Text) :
    Filter.escape (getGroupName base64url nsp room) = getGroupName base64url nsp room := by
  have safe := base64url.not_mem_encode (by decide : ¬('\''.isAlphanum = true ∨ _))
  apply Filter.escape_plain
  cases room with
  | none => simp [getGroupName, safe]
  | some room =>
    simp only [getGroupName]
    split <;> simp [safe]

/-- A room's piece is its printed test, at every strength. -/
theorem render_roomTest (room : Text) (strength : Nat) :
    (roomTest base64url nsp room).render strength = allowPiece base64url nsp room := by
  rw [roomTest, Filter.Expr.render, escape_groupName]
  simp [allowPiece]

/-- An excepted room's piece is its printed negated test. -/
theorem render_denial (except : Text) (strength : Nat) :
    (Filter.Expr.not (roomTest base64url nsp except)).render strength =
      denyPiece base64url nsp except := by
  rw [Filter.Expr.render, render_roomTest]
  -- the equation lemma of `denyPiece` would compute its texts
  delta denyPiece allowPiece
  simp

/-- A join after its first piece puts the separator before every other one. -/
theorem intercalate_flatMap {α : Type} (separator first : List α) (rest : List (List α)) :
    List.intercalate separator (first :: rest) = first ++ rest.flatMap (separator ++ ·) := by
  induction rest generalizing first with
  | nil => simp [List.intercalate]
  | cons next more inductionHypothesis =>
    have tail := inductionHypothesis next
    simp only [List.intercalate, List.intersperse_cons_cons, List.flatten_cons] at tail ⊢
    rw [tail]
    simp [List.append_assoc]

/-- A test with denials attached to it. -/
def deny (test : Filter.Expr) (excepts : List Text) : Filter.Expr :=
  excepts.foldl (fun filter except => .and filter (.not (roomTest base64url nsp except))) test

/-- A conjunction chain is printed flat, since `and` associates to the left. -/
theorem render_deny (test : Filter.Expr) (excepts : List Text) :
    (deny base64url nsp test excepts).render 1 =
      test.render 1 ++ excepts.flatMap (" and ".toList ++ denyPiece base64url nsp ·) := by
  induction excepts generalizing test with
  | nil => simp [deny]
  | cons except rest inductionHypothesis =>
    have denied := inductionHypothesis (.and test (.not (roomTest base64url nsp except)))
    rw [Filter.Expr.render, render_denial] at denied
    refine denied.trans ?_
    simp [Filter.Expr.enclose, List.append_assoc]

/-- A conjunction chain needs no parentheses as a disjunct. -/
theorem render_deny_loose (test : Filter.Expr) (loose : test.render 0 = test.render 1)
    (excepts : List Text) :
    (deny base64url nsp test excepts).render 0 = (deny base64url nsp test excepts).render 1 := by
  induction excepts generalizing test with
  | nil => exact loose
  | cons except rest inductionHypothesis => exact inductionHypothesis _ rfl

theorem render_lastTest (last : Text) (excepts : List Text) :
    (lastTest base64url nsp last excepts).render 1 = List.intercalate " and ".toList
      (allowPiece base64url nsp last :: excepts.map (denyPiece base64url nsp)) := by
  refine (render_deny base64url nsp _ excepts).trans ?_
  rw [render_roomTest, intercalate_flatMap, List.flatMap_map]

/-- A disjunction chain is printed flat, for the same reason. -/
theorem render_alternatives (first : Text) (rest : List Text) :
    (rest.foldl (fun filter room => .or filter (roomTest base64url nsp room))
      (roomTest base64url nsp first)).render 0 = List.intercalate " or ".toList
        ((first :: rest).map (allowPiece base64url nsp)) := by
  have chain (base : Filter.Expr) :
      (rest.foldl (fun filter room => .or filter (roomTest base64url nsp room)) base).render 0 =
      base.render 0 ++ rest.flatMap (" or ".toList ++ allowPiece base64url nsp ·) := by
    induction rest generalizing base with
    | nil => simp
    | cons room more inductionHypothesis =>
      rw [List.foldl_cons, inductionHypothesis, Filter.Expr.render, render_roomTest]
      simp [Filter.Expr.enclose, List.append_assoc]
  rw [chain, render_roomTest, List.map_cons, intercalate_flatMap, List.flatMap_map]

/-- The rooms the first loop visits. -/
def requested (rooms : RoomSet) : List Text :=
  if rooms.size = 0 then [[]] else rooms.rooms

/-- The rooms the second loop visits. -/
def excepted (excepts : Option RoomSet) : List Text := (excepts.map RoomSet.rooms).getD []

theorem requested_ne_nil (rooms : RoomSet) : requested rooms ≠ [] := by
  by_cases none : rooms.size = 0
  · simp [requested, none]
  · simp only [requested, none, if_false]
    intro vacant
    exact none (by simp [RoomSet.size, vacant])

/-- The builder's text is two joins, the second one present when some room is
excepted. -/
theorem buildODataFilter_eq (rooms : RoomSet) (excepts : Option RoomSet) :
    buildODataFilter base64url nsp rooms excepts =
      List.intercalate " or ".toList ((requested rooms).map (allowPiece base64url nsp)) ++
        (excepted excepts).flatMap (" and ".toList ++ denyPiece base64url nsp ·) := by
  have visited : (if rooms.size = 0 then RoomSet.single [] else rooms).rooms = requested rooms := by
    simp only [requested]
    split <;> rfl
  have deny : (match excepts with
      | some excepts => joinLoop (denyPiece base64url nsp) " and ".toList excepts
      | none => []) =
      List.intercalate " and ".toList ((excepted excepts).map (denyPiece base64url nsp)) := by
    cases excepts with
    | none => rfl
    | some excepts => exact joinLoop_eq _ _ _
  have allowed : 0 < (List.intercalate " or ".toList
      ((requested rooms).map (allowPiece base64url nsp))).length := by
    obtain ⟨first, rest, shape⟩ := List.exists_cons_of_ne_nil (requested_ne_nil rooms)
    rw [shape, List.map_cons, intercalate_flatMap]
    simp [allowPiece]
  simp only [buildODataFilter]
  rw [deny, joinLoop_eq, visited, if_pos allowed]
  cases excepted excepts with
  | nil => simp [List.intercalate]
  | cons except rest =>
    have denied : 0 < (List.intercalate " and ".toList
        ((except :: rest).map (denyPiece base64url nsp))).length := by
      rw [List.map_cons, intercalate_flatMap]
      delta denyPiece
      simp
    rw [if_pos denied, List.map_cons, intercalate_flatMap, List.flatMap_map, List.flatMap_cons]
    simp

theorem render_lastTest_loose (last : Text) (excepts : List Text) :
    (lastTest base64url nsp last excepts).render 0 =
      (lastTest base64url nsp last excepts).render 1 :=
  render_deny_loose base64url nsp _ rfl excepts

/-- The builder prints exactly the expression of its rooms. The last requested
room is the one the denials are attached to. -/
theorem buildODataFilter_render (rooms : RoomSet) (excepts : Option RoomSet) :
    buildODataFilter base64url nsp rooms excepts =
      (filterExpr base64url nsp (requested rooms).dropLast
        ((requested rooms).getLast (requested_ne_nil rooms)) (excepted excepts)).render 0 := by
  have split := List.dropLast_append_getLast (requested_ne_nil rooms)
  generalize (requested rooms).dropLast = earlier at split ⊢
  generalize (requested rooms).getLast (requested_ne_nil rooms) = last at split ⊢
  rw [buildODataFilter_eq, ← split]
  cases earlier with
  | nil =>
    rw [filterExpr, render_lastTest_loose, render_lastTest, intercalate_flatMap]
    simp [List.intercalate, List.flatMap_map]
  | cons first rest =>
    rw [filterExpr, Filter.Expr.render, render_alternatives, render_lastTest,
      List.cons_append, List.map_cons, intercalate_flatMap, List.map_cons, intercalate_flatMap,
      intercalate_flatMap]
    simp [Filter.Expr.enclose, List.flatMap_map]

/-! ## Recipients -/

/-- A connection with these groups is in the group of a room. -/
def InRoom (groups : Set Text) (room : Text) : Prop :=
  getGroupName base64url nsp (some room) ∈ groups

/-- The intended recipients: the connections of the namespace when no room is
given, else those of at least one room, and in both cases of no excepted room. -/
def Recipient (rooms : RoomSet) (excepts : Option RoomSet) (groups : Set Text) : Prop :=
  ((rooms.rooms = [] ∧ getGroupName base64url nsp none ∈ groups) ∨
      ∃ room ∈ rooms.rooms, InRoom base64url nsp groups room) ∧
    ∀ except ∈ excepted excepts, ¬ InRoom base64url nsp groups except

/-- The empty room has the name of the namespace's group. -/
theorem getGroupName_empty : getGroupName base64url nsp (some []) = getGroupName base64url nsp none :=
  rfl

/-- Both forms of the recipient rule: the loops replace an empty room set by the
empty room, whose group is the namespace's. -/
theorem recipient_requested (rooms : RoomSet) (excepts : Option RoomSet) (groups : Set Text) :
    Recipient base64url nsp rooms excepts groups ↔
      (∃ room ∈ requested rooms, InRoom base64url nsp groups room) ∧
        ∀ except ∈ excepted excepts, ¬ InRoom base64url nsp groups except := by
  refine and_congr_left fun _ => ?_
  by_cases vacant : rooms.rooms = []
  · simp [requested, RoomSet.size, vacant, InRoom, getGroupName_empty]
  · simp [requested, RoomSet.size, vacant]

/-- Denials hold outside all excepted rooms. -/
theorem holds_deny (test : Filter.Expr) (excepts : List Text) (groups : Set Text) :
    (deny base64url nsp test excepts).Holds groups ↔
      test.Holds groups ∧ ∀ except ∈ excepts, ¬ InRoom base64url nsp groups except := by
  induction excepts generalizing test with
  | nil => simp [deny]
  | cons except rest inductionHypothesis =>
    refine (inductionHypothesis (.and test (.not (roomTest base64url nsp except)))).trans ?_
    simp [roomTest, InRoom, and_assoc]

/-- The last conjunction holds in the last room outside all excepted rooms. -/
theorem holds_lastTest (last : Text) (excepts : List Text) (groups : Set Text) :
    (lastTest base64url nsp last excepts).Holds groups ↔
      InRoom base64url nsp groups last ∧ ∀ except ∈ excepts, ¬ InRoom base64url nsp groups except :=
  holds_deny base64url nsp _ excepts groups

/-- The whole expression holds in any earlier room, excepted or not, or where the
last conjunction holds. -/
theorem holds_filterExpr (earlier : List Text) (last : Text) (excepts : List Text)
    (groups : Set Text) :
    (filterExpr base64url nsp earlier last excepts).Holds groups ↔
      (∃ room ∈ earlier, InRoom base64url nsp groups room) ∨
        (InRoom base64url nsp groups last ∧
          ∀ except ∈ excepts, ¬ InRoom base64url nsp groups except) := by
  have chain (base : Filter.Expr) (rest : List Text) :
      (rest.foldl (fun filter room => .or filter (roomTest base64url nsp room)) base).Holds groups ↔
        base.Holds groups ∨ ∃ room ∈ rest, InRoom base64url nsp groups room := by
    induction rest generalizing base with
    | nil => simp
    | cons room more inductionHypothesis =>
      rw [List.foldl_cons, inductionHypothesis]
      simp [roomTest, InRoom, or_assoc]
  cases earlier with
  | nil => simp [filterExpr, holds_lastTest]
  | cons first rest =>
    rw [filterExpr, Filter.holds_or, chain, holds_lastTest]
    simp [roomTest, InRoom]

/-- What the builder's text selects: the denials restrict the last room alone. -/
theorem selects_buildODataFilter (rooms : RoomSet) (excepts : Option RoomSet) (groups : Set Text) :
    Filter.Selects (buildODataFilter base64url nsp rooms excepts) groups ↔
      (∃ room ∈ (requested rooms).dropLast, InRoom base64url nsp groups room) ∨
        (InRoom base64url nsp groups ((requested rooms).getLast (requested_ne_nil rooms)) ∧
          ∀ except ∈ excepted excepts, ¬ InRoom base64url nsp groups except) := by
  rw [buildODataFilter_render, Filter.selects_render, holds_filterExpr]

end Names

end WebPubSub.Adapter
