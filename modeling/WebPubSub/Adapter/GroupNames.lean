import WebPubSub.Adapter.FastPath

/-!
# Group names and the filters around them

The name of a group tells its namespace and its room, since the separator is no letter of
the encoder and an empty room is encoded as nothing. No name ends the literal it stands in,
so that a filter has the tokens that the builder inserts, for whatever rooms.
-/

namespace WebPubSub.Adapter

section GroupNames

variable (base64url : Base64Url)

/-! ## Tokens -/

variable (nsp : Text)

/-- The tokens of the test of a room. -/
def roomTokens (room : Text) : List Filter.Token :=
  [.literal (getGroupName base64url nsp (some room)), .word "in".toList, .word "groups".toList]

/-- The tokens of the denial of an excepted room. -/
def denialTokens (except : Text) : List Filter.Token :=
  .word "not".toList :: .opening :: roomTokens base64url nsp except ++ [.closing]

theorem scans_allowPiece (room : Text) :
    Filter.Scans (allowPiece base64url nsp room) (roomTokens base64url nsp room) := by
  rw [← render_roomTest base64url nsp room 0]
  exact Filter.scans_render (roomTest base64url nsp room) 0

theorem scans_denyPiece (except : Text) :
    Filter.Scans (denyPiece base64url nsp except) (denialTokens base64url nsp except) := by
  rw [← render_denial base64url nsp except 0]
  exact Filter.scans_render (.not (roomTest base64url nsp except)) 0

/-- The tokens that the builder inserts between and around the tests. -/
def filterTokens (rooms excepts : List Text) : List Filter.Token :=
  List.intercalate [.word "or".toList] (rooms.map (roomTokens base64url nsp)) ++
    excepts.flatMap (fun except => .word "and".toList :: denialTokens base64url nsp except)

/-- The group that a token names. -/
def groupLiteral : Filter.Token → Option Text
  | .literal name => some name
  | _ => none

theorem scans_buildODataFilter (rooms : RoomSet) (excepts : Option RoomSet) :
    Filter.Scans (buildODataFilter base64url nsp rooms excepts)
      (filterTokens base64url nsp (requested rooms) (excepted excepts)) := by
  obtain ⟨-, -, -, andWord, orWord⟩ := Filter.scans_keyword
  obtain ⟨first, rest, visited⟩ := List.exists_cons_of_ne_nil (requested_ne_nil rooms)
  have allowed := Filter.scans_intercalate orWord (allowPiece base64url nsp)
    (roomTokens base64url nsp) (scans_allowPiece base64url nsp) first rest
  rw [← visited] at allowed
  rw [buildODataFilter_eq, filterTokens]
  cases excepted excepts with
  | nil => simpa using allowed
  | cons except others =>
    have denied := Filter.scans_intercalate andWord (denyPiece base64url nsp)
      (denialTokens base64url nsp) (scans_denyPiece base64url nsp) except others
    have joined := Filter.scans_blank allowed (Filter.scans_blank andWord denied)
    rw [List.map_cons, intercalate_flatMap, List.map_cons, intercalate_flatMap] at joined
    simpa [List.flatMap_map, List.append_assoc] using joined

theorem scans_exceptsOnly (excepts : Option RoomSet) :
    Filter.Scans (buildODataFilterForExceptsOnly base64url nsp excepts)
      (List.intercalate [.word "and".toList]
        ((excepted excepts).map (denialTokens base64url nsp))) := by
  obtain ⟨-, -, -, andWord, -⟩ := Filter.scans_keyword
  have joined : buildODataFilterForExceptsOnly base64url nsp excepts =
      List.intercalate " and ".toList ((excepted excepts).map (denyPiece base64url nsp)) := by
    cases excepts with
    | none => rfl
    | some excepts => exact joinLoop_eq _ _ _
  rw [joined]
  cases excepted excepts with
  | nil => exact Filter.scans_nil
  | cons except others =>
    exact Filter.scans_intercalate andWord (denyPiece base64url nsp)
      (denialTokens base64url nsp) (scans_denyPiece base64url nsp) except others

/-- The literals of a join are those of its pieces, if its separator has none. -/
theorem literals_intercalate {separator : Filter.Token} (plain : groupLiteral separator = none)
    (pieces : List (List Filter.Token)) :
    (List.intercalate [separator] pieces).filterMap groupLiteral =
      pieces.flatMap (fun piece => piece.filterMap groupLiteral) := by
  cases pieces with
  | nil => rfl
  | cons first rest =>
    rw [intercalate_flatMap, List.filterMap_append, List.flatMap_cons]
    congr 1
    induction rest with
    | nil => rfl
    | cons next more inductionHypothesis =>
      simpa [plain] using inductionHypothesis

@[simp] theorem literals_roomTokens (room : Text) :
    (roomTokens base64url nsp room).filterMap groupLiteral =
      [getGroupName base64url nsp (some room)] := rfl

@[simp] theorem literals_denialTokens (except : Text) :
    (denialTokens base64url nsp except).filterMap groupLiteral =
      [getGroupName base64url nsp (some except)] := rfl

/-- The filters have the tokens that the builders insert around one literal for each
requested or excepted room, and names tell their namespace and room. -/
theorem group_names_contained (base64url : Base64Url) (emptyText : base64url.encode [] = []) :
    (∀ nsp otherNsp room otherRoom,
      getGroupName base64url nsp room = getGroupName base64url otherNsp otherRoom ↔
        nsp = otherNsp ∧ room.getD [] = otherRoom.getD []) ∧
    ∀ nsp rooms excepts,
      Filter.tokenize (buildODataFilter base64url nsp rooms excepts) =
        some (filterTokens base64url nsp (requested rooms) (excepted excepts)) ∧
      (filterTokens base64url nsp (requested rooms) (excepted excepts)).filterMap groupLiteral =
        (requested rooms ++ excepted excepts).map
          (fun room => getGroupName base64url nsp (some room)) ∧
      Filter.tokenize (buildODataFilterForExceptsOnly base64url nsp excepts) =
        some (List.intercalate [.word "and".toList]
          ((excepted excepts).map (denialTokens base64url nsp))) ∧
      (List.intercalate [.word "and".toList]
          ((excepted excepts).map (denialTokens base64url nsp))).filterMap groupLiteral =
        (excepted excepts).map (fun room => getGroupName base64url nsp (some room)) := by
  refine ⟨groupName_eq_iff base64url emptyText, fun nsp rooms excepts => ⟨?_, ?_, ?_, ?_⟩⟩
  · exact Filter.tokenize_of_scans (scans_buildODataFilter base64url nsp rooms excepts)
  · have denials (except : Text) :
        (Filter.Token.word "and".toList :: denialTokens base64url nsp except).filterMap groupLiteral =
          [getGroupName base64url nsp (some except)] := rfl
    rw [filterTokens, List.filterMap_append, literals_intercalate rfl, List.flatMap_map,
      List.filterMap_flatMap, List.map_append]
    simp only [literals_roomTokens, denials, List.map_eq_flatMap]
  · exact Filter.tokenize_of_scans (scans_exceptsOnly base64url nsp excepts)
  · rw [literals_intercalate rfl, List.flatMap_map, List.map_eq_flatMap]
    simp only [literals_denialTokens]

end GroupNames

/-- The tokens of a filter for a room and an exception with quotes and operators in them. -/
theorem group_names_contained_utf8 :
    (getGroupName Base64Url.utf8 "a".toList (some "b~0~c".toList) =
        getGroupName Base64Url.utf8 "a~b".toList (some "0~c".toList) ↔
      "a".toList = "a~b".toList ∧ "b~0~c".toList = "0~c".toList) ∧
    Filter.tokenize (buildODataFilter Base64Url.utf8 "a".toList
        (RoomSet.single "' or 1 in groups".toList) none) =
      some (filterTokens Base64Url.utf8 "a".toList ["' or 1 in groups".toList] []) :=
  ⟨(group_names_contained Base64Url.utf8 (by decide +kernel)).1 _ _ (some "b~0~c".toList) _,
    ((group_names_contained Base64Url.utf8 (by decide +kernel)).2 "a".toList
      (RoomSet.single "' or 1 in groups".toList) none).1⟩

end WebPubSub.Adapter
