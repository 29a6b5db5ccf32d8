import SpriteText.Proofs.Asset.RoundTrip
import SpriteText.Proofs.Asset.Sessions
import SpriteText.Proofs.Constants.ModuleStatements
import SpriteText.Proofs.Sheet.EmittedNames

/-!
# What a module of constants rebuilds

The definitions of a module share one namespace with the names that they read. Executing the module
binds every name to its sprite as long as no definition takes one of these names away from another
that is still to come, and no name is that of the list at the end.
-/

namespace SpriteText.Constants

open Sheet (Identifier PlainName)

/-! ## One definition -/

variable {names : Namespace} {name other : String} {sprite : Sprite} {set : SpriteSet}

/-- The names that definitions read are bound as they are before the first one. -/
structure Intact (names : Namespace) : Prop where
  /-- Sprites are made of their parts. -/
  maker : Reference.feature? ⟨"Sprite", "from_byte_array"⟩ names = .ok .make
  /-- Bytes are made of digits. -/
  decoder : names.value "bytes" = .ok .bytesType
  /-- The depths are there. -/
  depths : names.value "BitsPerPixel" = .ok .depthTable

/-- A name is bound to the value that was put under it, and no other name is touched. -/
theorem value_insert (names : Namespace) (name other : String) (value : Value) :
    Namespace.value (names.insert name value) other =
      if other = name then .ok value else names.value other := by
  rw [Namespace.value, NameTable.get?_insert]
  by_cases same : other = name
  · rw [if_pos same, if_pos same]
  · rw [if_neg same, if_neg same]
    rfl

/-- A sprite makes sprites as its type does, so it can be put under any name but two. -/
theorem Intact.insert (intact : Intact names) (decoder : name ≠ "bytes")
    (depths : name ≠ "BitsPerPixel") (sprite : Sprite) :
    Intact (names.insert name (.sprite sprite)) := by
  constructor
  case maker =>
    rw [Reference.feature?, value_insert]
    by_cases same : "Sprite" = name
    · rw [if_pos same]
      rfl
    · rw [if_neg same]
      exact intact.maker
  case decoder => rw [value_insert, if_neg decoder.symm, intact.decoder]
  case depths => rw [value_insert, if_neg depths.symm, intact.depths]

/-- The definition of a sprite gives the sprite. -/
theorem Intact.sprite? (intact : Intact names) (name : String) (sprite : Sprite) :
    (definitionOf name sprite).sprite? names = .ok sprite := by
  have decoder : Reference.feature? ⟨"bytes", "fromhex"⟩ names = .ok .decode := by
    rw [Reference.feature?, intact.decoder]
    rfl
  have depth : Reference.feature? ⟨"BitsPerPixel", sprite.depth.label⟩ names =
      .ok (.depth sprite.depth) := by
    rw [Reference.feature?, intact.depths]
    cases sprite.depth <;> rfl
  have made : Sprite.ofBytes sprite.width sprite.height sprite.depth.bits
      sprite.data.toList.toArray sprite.tailAligned = .ok sprite := by
    rw [Array.toArray_toList, Asset.Session.ofBytes_natCast, Asset.ofShape_self]
  simp only [Definition.sprite?, definitionOf, intact.maker, decoder, depth, hexBytes?_hexBytes,
    made, Bind.bind, Except.bind]

/-- A sprite neither decodes digits nor has depths, so in the place of what does it refuses every
further definition. -/
theorem Intact.refused (intact : Intact names) (taken : name = "bytes" ∨ name = "BitsPerPixel")
    (sprite : Sprite) (other : String) (further : Sprite) :
    ∃ reference, (definitionOf other further).sprite? (names.insert name (.sprite sprite)) =
      .error (.noFeature reference) := by
  have maker : Reference.feature? ⟨"Sprite", "from_byte_array"⟩
      (names.insert name (.sprite sprite)) = .ok .make := by
    have past : "Sprite" ≠ name := by
      rintro rfl
      rcases taken with same | same <;> contradiction
    rw [Reference.feature?, value_insert, if_neg past]
    exact intact.maker
  rcases taken with rfl | rfl
  · have decoder : Reference.feature? ⟨"bytes", "fromhex"⟩
        (names.insert "bytes" (.sprite sprite)) = .error (.noFeature ⟨"bytes", "fromhex"⟩) := by
      rw [Reference.feature?, value_insert, if_pos rfl]
      rfl
    refine ⟨⟨"bytes", "fromhex"⟩, ?_⟩
    simp only [Definition.sprite?, definitionOf, maker, decoder, Bind.bind, Except.bind]
  · have decoder : Reference.feature? ⟨"bytes", "fromhex"⟩
        (names.insert "BitsPerPixel" (.sprite sprite)) = .ok .decode := by
      rw [Reference.feature?, value_insert, if_neg (by decide), intact.decoder]
      rfl
    have depth : Reference.feature? ⟨"BitsPerPixel", further.depth.label⟩
        (names.insert "BitsPerPixel" (.sprite sprite)) =
          .error (.noFeature ⟨"BitsPerPixel", further.depth.label⟩) := by
      rw [Reference.feature?, value_insert, if_pos rfl]
      cases further.depth <;> rfl
    refine ⟨⟨"BitsPerPixel", further.depth.label⟩, ?_⟩
    simp only [Definition.sprite?, definitionOf, maker, decoder, depth, hexBytes?_hexBytes,
      Bind.bind, Except.bind]

/-! ## All definitions -/

/-- The namespace in which sprites are bound to their names, one after the other. -/
def Namespace.withSprites (names : Namespace) : List (String × Sprite) → Namespace
  | [] => names
  | (name, sprite) :: rest => Namespace.withSprites (names.insert name (.sprite sprite)) rest

/-- Names that are not among those of the sprites are bound as before. -/
theorem get?_withSprites_of_not_mem {sprites : List (String × Sprite)}
    (absent : name ∉ sprites.map Prod.fst) :
    (names.withSprites sprites).get? name = names.get? name := by
  induction sprites generalizing names with
  | nil => rfl
  | cons entry sprites ih =>
    rw [List.map_cons, List.mem_cons, not_or] at absent
    rw [Namespace.withSprites, ih absent.2, NameTable.get?_insert, if_neg absent.1]

/-- The names of sprites are bound to them, if they are distinct. -/
theorem get?_withSprites_of_mem {sprites : List (String × Sprite)}
    (distinct : (sprites.map Prod.fst).Nodup) (member : (name, sprite) ∈ sprites) :
    (names.withSprites sprites).get? name = some (.sprite sprite) := by
  induction sprites generalizing names with
  | nil => contradiction
  | cons entry sprites ih =>
    rw [List.map_cons, List.nodup_cons] at distinct
    rw [Namespace.withSprites]
    rcases List.mem_cons.mp member with rfl | later
    · rw [get?_withSprites_of_not_mem distinct.1, NameTable.get?_insert, if_pos rfl]
    · exact ih distinct.2 later

/-- The first definition binds its name to its sprite. -/
theorem Intact.executeAll_cons (intact : Intact names) (entry : String × Sprite)
    (sprites : List (String × Sprite)) (rest : List Statement) :
    executeAll names (definitions (entry :: sprites) ++ rest) =
      executeAll (names.insert entry.1 (.sprite entry.2)) (definitions sprites ++ rest) := by
  rw [definitions, List.map_cons, List.cons_append, executeAll, Statement.execute, intact.sprite?]
  rfl

/-- Definitions bind their names to their sprites, if none before the last one takes a name away
that they read. -/
theorem executeAll_definitions {sprites : List (String × Sprite)} (intact : Intact names)
    (decoder : "bytes" ∉ (sprites.map Prod.fst).dropLast)
    (depths : "BitsPerPixel" ∉ (sprites.map Prod.fst).dropLast) (rest : List Statement) :
    executeAll names (definitions sprites ++ rest) =
      executeAll (names.withSprites sprites) rest := by
  induction sprites generalizing names with
  | nil => rfl
  | cons entry sprites ih =>
    rw [intact.executeAll_cons, Namespace.withSprites]
    cases sprites with
    | nil => rfl
    | cons second sprites =>
      rw [List.map_cons, List.map_cons, List.dropLast_cons_cons, List.mem_cons, not_or,
        ← List.map_cons] at decoder depths
      exact ih (intact.insert (Ne.symm decoder.1) (Ne.symm depths.1) entry.2) decoder.2 depths.2

/-- Definitions are not executed to their end if one before the last takes a name away that they
read. -/
theorem executeAll_definitions_of_taken {sprites : List (String × Sprite)} (intact : Intact names)
    (taken : ∃ name ∈ (sprites.map Prod.fst).dropLast, name = "bytes" ∨ name = "BitsPerPixel")
    (rest : List Statement) :
    ∃ reference,
      executeAll names (definitions sprites ++ rest) = .error (.noFeature reference) := by
  induction sprites generalizing names with
  | nil =>
    obtain ⟨name, member, -⟩ := taken
    contradiction
  | cons entry sprites ih =>
    rw [intact.executeAll_cons]
    cases sprites with
    | nil =>
      obtain ⟨name, member, -⟩ := taken
      contradiction
    | cons second sprites =>
      by_cases here : entry.1 = "bytes" ∨ entry.1 = "BitsPerPixel"
      · obtain ⟨reference, refused⟩ := intact.refused here entry.2 second.1 second.2
        refine ⟨reference, ?_⟩
        rw [definitions, List.map_cons, List.cons_append, executeAll, Statement.execute, refused]
      · obtain ⟨decoder, depths⟩ := not_or.mp here
        apply ih (intact.insert decoder depths entry.2)
        obtain ⟨name, member, read⟩ := taken
        rw [List.map_cons, List.map_cons, List.dropLast_cons_cons, List.mem_cons,
          ← List.map_cons] at member
        rcases member with rfl | later
        · exact absurd read here
        · exact ⟨name, later, read⟩

/-! ## A whole module -/

/-- The namespace behind the import. -/
def imported : Namespace :=
  (NameTable.empty.insert "BitsPerPixel" .depthTable).insert "Sprite" .spriteType

/-- The import binds what definitions read. -/
theorem intact_imported : Intact imported := by
  constructor <;> rfl

/-- The remark and the import are executed first. -/
theorem executeAll_moduleStatements (set : SpriteSet) (sourceName : Option String) :
    executeAll .empty (moduleStatements set sourceName) =
      executeAll imported (definitions set.entries ++ [.list "__all__" set.names]) := rfl

/-- Every sprite of a set is bound to its name, and the names are listed. -/
structure Namespace.Holds (names : Namespace) (set : SpriteSet) : Prop where
  /-- Every name is bound to its sprite. -/
  sprites : ∀ entry ∈ set.entries, names.get? entry.1 = some (.sprite entry.2)
  /-- The list holds the names, in order. -/
  list : names.get? "__all__" = some (.names set.names)

/-- A module is executed to its end and rebuilds the sprites of a set. -/
def Rebuilds (text : String) (set : SpriteSet) : Prop :=
  ∃ names, execute text = .ok names ∧ names.Holds set

/-- No name of a sprite takes anything away from the statements of a module. -/
structure Undisturbed (names : List String) : Prop where
  /-- No name is that of the list. -/
  list : "__all__" ∉ names
  /-- No name is the one that is no keyword and cannot be bound. -/
  debug : "__debug__" ∉ names
  /-- Before the last sprite, none has the name of what decodes digits. -/
  decoder : "bytes" ∉ names.dropLast
  /-- Before the last sprite, none has the name of the depths. -/
  depths : "BitsPerPixel" ∉ names.dropLast

variable {sourceName : Option String}

/-- A module of undisturbed names holds the sprites and the list at its end. -/
theorem holds_withSprites (undisturbed : Undisturbed set.names) :
    Namespace.Holds ((imported.withSprites set.entries).insert "__all__" (.names set.names))
      set := by
  constructor
  case sprites =>
    intro ⟨name, sprite⟩ member
    have other : name ≠ "__all__" := by
      rintro rfl
      exact undisturbed.list (List.mem_map_of_mem member)
    rw [NameTable.get?_insert, if_neg other]
    exact get?_withSprites_of_mem set.distinct member
  case list => rw [NameTable.get?_insert, if_pos rfl]

/-- Plain names can be bound, unless one is the name that is no keyword and cannot be. -/
theorem bindable_iff (plain : ∀ name ∈ set.names, PlainName name) :
    Bindable set.entries ↔ "__debug__" ∉ set.names := by
  constructor
  · intro bindable member
    obtain ⟨entry, held, same⟩ := List.mem_map.mp member
    have bound := bindable entry held
    rw [same] at bound
    contradiction
  · intro absent entry member
    have named : entry.1 ∈ set.names := List.mem_map_of_mem member
    have free := (plain entry.1 named).free
    have other : entry.1 ≠ "__debug__" := by
      intro same
      exact absent (same ▸ named)
    simp [isBindable, free, other]

/-- Plain names are identifiers. -/
theorem identifiers_of_plain (plain : ∀ name ∈ set.names, PlainName name) :
    ∀ entry ∈ set.entries, Identifier entry.1 := by
  intro entry member
  exact (plain entry.1 (List.mem_map_of_mem member)).identifier

/-- A module of names that can all be bound is executed by its definitions and the list. -/
theorem execute_of_bindable (identifiers : ∀ entry ∈ set.entries, Identifier entry.1)
    (unescaped : Unescaped sourceName) (null_free : NullFree sourceName)
    (bindable : Bindable set.entries) :
    execute (moduleText set sourceName) =
      executeAll imported (definitions set.entries ++ [.list "__all__" set.names]) := by
  rw [execute, tokens?_moduleText identifiers unescaped null_free, Option.bind_some,
    statements?_moduleTokens bindable]
  exact executeAll_moduleStatements set sourceName

/-- A module is not executed to its end if a name before the last one is one that definitions
read. -/
theorem execute_of_taken (identifiers : ∀ entry ∈ set.entries, Identifier entry.1)
    (unescaped : Unescaped sourceName) (null_free : NullFree sourceName)
    (bindable : Bindable set.entries)
    (taken : ∃ name ∈ set.names.dropLast, name = "bytes" ∨ name = "BitsPerPixel") :
    ∃ reference, execute (moduleText set sourceName) = .error (.noFeature reference) := by
  rw [execute_of_bindable identifiers unescaped null_free bindable]
  exact executeAll_definitions_of_taken intact_imported taken _

/-- A module of undisturbed plain names rebuilds its sprites. -/
theorem rebuilds_of_undisturbed (plain : ∀ name ∈ set.names, PlainName name)
    (unescaped : Unescaped sourceName) (null_free : NullFree sourceName)
    (undisturbed : Undisturbed set.names) : Rebuilds (moduleText set sourceName) set := by
  have bindable := (bindable_iff plain).mpr undisturbed.debug
  refine ⟨_, ?_, holds_withSprites undisturbed⟩
  rw [execute_of_bindable (identifiers_of_plain plain) unescaped null_free bindable,
    executeAll_definitions intact_imported undisturbed.decoder undisturbed.depths]
  rfl

/-- Plain names of a module that rebuilds its sprites are undisturbed. -/
theorem undisturbed_of_rebuilds (plain : ∀ name ∈ set.names, PlainName name)
    (unescaped : Unescaped sourceName) (null_free : NullFree sourceName)
    (rebuilds : Rebuilds (moduleText set sourceName) set) : Undisturbed set.names := by
  have identifiers := identifiers_of_plain plain
  obtain ⟨names, executed, holds⟩ := rebuilds
  have bindable : Bindable set.entries := by
    by_contra unbindable
    rw [execute, tokens?_moduleText identifiers unescaped null_free, Option.bind_some,
      statements?_moduleTokens_eq_none unbindable] at executed
    contradiction
  have free : ¬∃ name ∈ set.names.dropLast, name = "bytes" ∨ name = "BitsPerPixel" := by
    intro taken
    obtain ⟨reference, refused⟩ :=
      execute_of_taken identifiers unescaped null_free bindable taken
    rw [refused] at executed
    contradiction
  constructor
  case list =>
    intro member
    obtain ⟨entry, held, same⟩ := List.mem_map.mp member
    have bound := holds.sprites entry held
    rw [same, holds.list] at bound
    cases bound
  case debug => exact (bindable_iff plain).mp bindable
  case decoder => exact fun member => free ⟨"bytes", member, .inl rfl⟩
  case depths => exact fun member => free ⟨"BitsPerPixel", member, .inr rfl⟩

/-- A text that is no module rebuilds nothing. -/
theorem not_rebuilds_of_unread {text : String} (unread : tokens? text = none) :
    ¬Rebuilds text set := by
  rintro ⟨names, executed, -⟩
  rw [execute, unread, Option.bind_none] at executed
  contradiction

/-- The module of a compiled sheet rebuilds its sprites exactly if all names are plain, no name
takes anything away from the statements, and the name of the source has no null character. -/
theorem rebuilds_iff_undisturbed {text : String} {defaultName : Option String} {alignTail : Bool}
    (compiled : Sheet.compile text defaultName alignTail = .ok set)
    (unescaped : Unescaped sourceName) :
    Rebuilds (moduleText set sourceName) set ↔
      (∀ name ∈ set.names, PlainName name) ∧ Undisturbed set.names ∧ NullFree sourceName := by
  constructor
  · intro rebuilds
    have null_free : NullFree sourceName := by
      intro source given null
      exact not_rebuilds_of_unread (tokens?_of_null given null) rebuilds
    rcases Sheet.plainName_of_compile compiled with plain | ⟨word, sprite, identifier, only⟩
    · exact ⟨plain, undisturbed_of_rebuilds plain unescaped null_free rebuilds, null_free⟩
    · have spelled : (word ++ "\n").toList = word.toList ++ ['\n'] := String.toList_append
      have unread := tokens?_of_feed_ended only identifier spelled unescaped null_free
      exact absurd rebuilds (not_rebuilds_of_unread unread)
  · rintro ⟨plain, undisturbed, null_free⟩
    exact rebuilds_of_undisturbed plain unescaped null_free undisturbed

/-- A sprite may have the name of the type of sprites, and the last one that of what decodes
digits. -/
theorem rebuilds_iff_undisturbed_type_name :
    ∃ set, Sheet.compile "@sprite Sprite\n00\n@sprite bytes\n11\n" none false = .ok set ∧
      Rebuilds (moduleText set (some "sheet.txt")) set := by
  obtain ⟨set, compiled, names⟩ : ∃ set,
      Sheet.compile "@sprite Sprite\n00\n@sprite bytes\n11\n" none false = .ok set ∧
        set.names = ["Sprite", "bytes"] := ⟨_, rfl, rfl⟩
  have unescaped : Unescaped (some "sheet.txt") := by constructor <;> decide
  refine ⟨set, compiled, (rebuilds_iff_undisturbed compiled unescaped).mpr ?_⟩
  rw [names]
  refine ⟨Sheet.forall_plainName (by decide), by constructor <;> decide, ?_⟩
  intro source given
  cases given
  decide

/-- A sprite with the name of what decodes digits keeps the definition behind it from being
executed. -/
theorem bytes_sprite_stops_module :
    ∃ set reference, Sheet.compile "@sprite bytes\n00\n@sprite b\n00\n" none false = .ok set ∧
      execute (moduleText set (some "sheet.txt")) = .error (.noFeature reference) := by
  obtain ⟨set, compiled, names⟩ : ∃ set,
      Sheet.compile "@sprite bytes\n00\n@sprite b\n00\n" none false = .ok set ∧
        set.names = ["bytes", "b"] := ⟨_, rfl, rfl⟩
  have unescaped : Unescaped (some "sheet.txt") := by constructor <;> decide
  have plain : ∀ name ∈ set.names, PlainName name := by
    rw [names]
    exact Sheet.forall_plainName (by decide)
  have null_free : NullFree (some "sheet.txt") := by
    intro source given
    cases given
    decide
  have bindable : Bindable set.entries := by
    rw [bindable_iff plain, names]
    decide
  have taken : ∃ name ∈ set.names.dropLast, name = "bytes" ∨ name = "BitsPerPixel" := by
    rw [names]
    exact ⟨"bytes", by decide, .inl rfl⟩
  obtain ⟨reference, refused⟩ :=
    execute_of_taken (identifiers_of_plain plain) unescaped null_free bindable taken
  exact ⟨set, reference, compiled, refused⟩

end SpriteText.Constants
