import TextCursor.Command
import TextCursor.Config.Stored
import TextCursor.Proofs.JsonSpelling
/-!
# Stored configurations

A configuration that is saved and loaded is the same configuration, whatever its blanks are, so a cursor set up from it behaves
as one set up from the original (`stored_config_survives`).  The store is a parameter of this.  It is asked to escape strings
and to read objects as the standard has it, to save an object of one member and to load one by its members
(`Config.Stores`).  The store at hand is one (`Config.stores_ofJson?`).
-/
namespace TextCursor
namespace Config

/-- What is asked of a store of configurations, where `quote` writes the strings of JSON and `members` reads its objects. -/
structure Stores (quote : Text → Text) (members : Text → Option (List (Text × Text))) (save : Config → Text)
    (load : Text → Option Config) : Prop where
  /-- A configuration is saved as the object of its one field, with no space around anything. -/
  save_eq : ∀ s, save s = '{' :: (quote "whitespace".toList ++ ':' :: (quote s.blanks ++ ['}']))
  /-- An object no name of which comes twice is loaded by its members: the field is what the member of its name says, whatever
  else there is, and without such a member it is what it is by default. -/
  load_eq : ∀ j ms, members j = some ms → (ms.map Prod.fst).Nodup →
    load j = some ⟨(ms.lookup "whitespace".toList).getD ({} : Config).blanks⟩

section

variable {escape : Char → Text} {quote : Text → Text} {members : Text → Option (List (Text × Text))} {save : Config → Text}
  {load : Text → Option Config}

/-- **A configuration is saved as an object whose one value is its blanks.** -/
theorem Stores.isObject_save (hquote : Json.WritesStrings escape quote) (h : Stores quote members save load) (s : Config) :
    Json.IsObject (save s) [("whitespace".toList, s.blanks)] := by
  rw [h.save_eq]
  exact Json.isObject_one (hquote.isString _) (hquote.isString _)

/-- **A configuration that is saved is loaded as it was.** -/
theorem Stores.load_save (hquote : Json.WritesStrings escape quote)
    (hmembers : ∀ j ms, Json.IsObject j ms → members j = some ms) (h : Stores quote members save load) (s : Config) :
    load (save s) = some s := by
  have hread := hmembers _ _ (h.isObject_save hquote s)
  rw [h.load_eq _ _ hread (by simp), List.lookup_cons_self]
  rfl

end

/-! ## The store at hand -/

theorem blanksFrom?_of_notMem {ps : List (List Json.Piece × Json)} {ms : List (Text × Text)}
    (h : ps.mapM Json.member? = some ms) (hnone : blanksName ∉ ms.map Prod.fst) (found : Option Text) :
    blanksFrom? found ps = some found := by
  induction ps generalizing ms with
  | nil => rfl
  | cons p ps ih =>
    obtain ⟨⟨k, v⟩, ms, hp, hps, rfl⟩ := Json.mapM_member?_cons.1 h
    obtain ⟨ks, vs, rfl, hk, -⟩ := Json.member?_eq_some_iff.1 hp
    obtain ⟨hname, hrest⟩ := not_or.1 (mt List.mem_cons.2 hnone)
    simp [blanksFrom?, hk, Ne.symm hname, ih hps hrest]

/-- **The blanks are found in the member that is named for them**, if there is one. -/
theorem blanksFrom?_eq_lookup {ps : List (List Json.Piece × Json)} {ms : List (Text × Text)}
    (h : ps.mapM Json.member? = some ms) (hnodup : (ms.map Prod.fst).Nodup) :
    blanksFrom? none ps = some (ms.lookup blanksName) := by
  induction ps generalizing ms with
  | nil =>
    cases h
    rfl
  | cons p ps ih =>
    obtain ⟨⟨k, v⟩, ms, hp, hps, rfl⟩ := Json.mapM_member?_cons.1 h
    obtain ⟨ks, vs, rfl, hk, hv⟩ := Json.member?_eq_some_iff.1 hp
    obtain ⟨hfree, hrest⟩ := List.nodup_cons.1 hnodup
    by_cases hname : k = blanksName
    · subst hname
      rw [List.lookup_cons_self]
      simp [blanksFrom?, hk, hv, blanksFrom?_of_notMem hps hfree]
    · rw [List.lookup_cons, beq_false_of_ne (Ne.symm hname)]
      simp [blanksFrom?, hk, hname, ih hps hrest]

theorem stores_ofJson? : Stores Json.quote Json.object? toJson ofJson? where
  save_eq s := by
    rw [toJson, List.cons_append, List.cons_append, List.append_assoc, List.cons_append]
    rfl
  load_eq j ms hj hnodup := by
    obtain ⟨ps, hparse, hps⟩ := Json.object?_eq_some_iff.1 hj
    have hvalue : ofValue? (.object ps) = some ⟨(ms.lookup blanksName).getD ({} : Config).blanks⟩ := by
      rw [ofValue?, blanksFrom?_eq_lookup hps hnodup, Option.map_some]
      cases ms.lookup blanksName with
      | none => rfl
      | some w => rfl
    rw [ofJson?, hparse]
    exact hvalue

end Config

namespace Cursor

/-- **A configuration survives being stored**, in any store that does what is asked of it.  Whatever characters its blanks are,
what is saved is loaded as a configuration with just these blanks, and every run of a cursor with it, over any text, has the
same outcomes. -/
theorem stored_config_survives {escape : Char → Text} {quote : Text → Text} {members : Text → Option (List (Text × Text))}
    {save : Config → Text} {load : Text → Option Config} (hquote : Json.WritesStrings escape quote)
    (hmembers : ∀ j ms, Json.IsObject j ms → members j = some ms) (hstore : Config.Stores quote members save load)
    (w : Text) :
    ∃ s : Config, load (save ⟨w⟩) = some s ∧ s.blanks = w ∧
      ∀ (t : Text) (ms : List Command), (ofText t s).run ms = (ofText t ⟨w⟩).run ms :=
  ⟨⟨w⟩, hstore.load_save hquote hmembers ⟨w⟩, rfl, fun _ _ => rfl⟩

/-- A quote, a backslash, a solidus, control characters with a letter and without, and characters outside ASCII. -/
theorem stored_config_survives_escapes :
    let w : Text := "\"\\/\n\x01\x1f é😀".toList
    (Json.WritesStrings Json.escape Json.quote ∧ (∀ j ms, Json.IsObject j ms → Json.object? j = some ms) ∧
      Config.Stores Json.quote Json.object? Config.toJson Config.ofJson?) ∧
    (Config.mk w).toJson = "\x7b\"whitespace\":\"\\\"\\\\/\\n\\u0001\\u001f é😀\"\x7d".toList ∧
    ∃ s : Config, Config.ofJson? (Config.mk w).toJson = some s ∧ s.blanks = w ∧
      ∀ (t : Text) (ms : List Command), (ofText t s).run ms = (ofText t ⟨w⟩).run ms := by
  have hmembers : ∀ j ms, Json.IsObject j ms → Json.object? j = some ms := fun _ _ => Json.object?_of_isObject
  exact ⟨⟨Json.writesStrings_quote, hmembers, Config.stores_ofJson?⟩, by decide,
    stored_config_survives Json.writesStrings_quote hmembers Config.stores_ofJson? _⟩

end Cursor
end TextCursor
