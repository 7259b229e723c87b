import CommentDocs.Table

/-!
# Data without a schema

Settings files and metadata written by other tools bring data of any shape. Numbers with
a fraction and points in time are kept as they were written: nothing here computes with
them. Equality of data is decidable.
-/

namespace CommentDocs

/-- A tree of tables and arrays over plain data. -/
inductive Datum where
  | null
  | boolean (value : Bool)
  | integer (value : Int)
  | real (lexeme : Text)
  | moment (lexeme : Text)
  | text (value : Text)
  | array (items : List Datum)
  | table (entries : List (Text × Datum))
  deriving Inhabited, Repr

namespace Datum

mutual

/-- Whether two data are the same tree. -/
def same : Datum → Datum → Bool
  | .null, .null => true
  | .boolean a, .boolean b => a = b
  | .integer a, .integer b => a = b
  | .real a, .real b => a = b
  | .moment a, .moment b => a = b
  | .text a, .text b => a = b
  | .array a, .array b => sameItems a b
  | .table a, .table b => sameEntries a b
  | _, _ => false

def sameItems : List Datum → List Datum → Bool
  | [], [] => true
  | a :: as, b :: bs => same a b && sameItems as bs
  | _, _ => false

def sameEntries : List (Text × Datum) → List (Text × Datum) → Bool
  | [], [] => true
  | (key, a) :: as, (name, b) :: bs => key = name && same a b && sameEntries as bs
  | _, _ => false

end

mutual

theorem same_refl : ∀ a : Datum, same a a = true
  | .null => rfl
  | .boolean _ | .integer _ | .real _ | .moment _ | .text _ => by simp [same]
  | .array items => by rw [same]; exact sameItems_refl items
  | .table entries => by rw [same]; exact sameEntries_refl entries

theorem sameItems_refl : ∀ as : List Datum, sameItems as as = true
  | [] => rfl
  | a :: as => by simp [sameItems, same_refl a, sameItems_refl as]

theorem sameEntries_refl : ∀ as : List (Text × Datum), sameEntries as as = true
  | [] => rfl
  | (key, a) :: as => by simp [sameEntries, same_refl a, sameEntries_refl as]

end

mutual

theorem eq_of_same : ∀ {a b : Datum}, same a b = true → a = b
  | .null, b, h => by cases b <;> simp_all [same]
  | .boolean _, b, h => by cases b <;> simp_all [same]
  | .integer _, b, h => by cases b <;> simp_all [same]
  | .real _, b, h => by cases b <;> simp_all [same]
  | .moment _, b, h => by cases b <;> simp_all [same]
  | .text _, b, h => by cases b <;> simp_all [same]
  | .array as, b, h => by
    cases b with
    | array bs => rw [@eq_of_sameItems as bs (by simpa [same] using h)]
    | _ => simp [same] at h
  | .table as, b, h => by
    cases b with
    | table bs => rw [@eq_of_sameEntries as bs (by simpa [same] using h)]
    | _ => simp [same] at h

theorem eq_of_sameItems : ∀ {as bs : List Datum}, sameItems as bs = true → as = bs
  | [], [], _ => rfl
  | [], _ :: _, h => by simp [sameItems] at h
  | _ :: _, [], h => by simp [sameItems] at h
  | a :: as, b :: bs, h => by
    simp only [sameItems, Bool.and_eq_true] at h
    rw [eq_of_same h.1, eq_of_sameItems h.2]

theorem eq_of_sameEntries :
    ∀ {as bs : List (Text × Datum)}, sameEntries as bs = true → as = bs
  | [], [], _ => rfl
  | [], _ :: _, h => by simp [sameEntries] at h
  | _ :: _, [], h => by simp [sameEntries] at h
  | (key, a) :: as, (name, b) :: bs, h => by
    simp only [sameEntries, Bool.and_eq_true, decide_eq_true_eq] at h
    rw [h.1.1, eq_of_same h.1.2, eq_of_sameEntries h.2]

end

instance : DecidableEq Datum := fun a b =>
  if h : same a b = true then isTrue (eq_of_same h)
  else isFalse fun equal => h (equal ▸ same_refl a)

/-- Whether a numeral has a value other than zero; infinity and an undefined number have. -/
def isNonzero (lexeme : Text) : Bool :=
  (lexeme.takeWhile fun c => c ≠ 'e' && c ≠ 'E').any fun c =>
    ('1' ≤ c && c ≤ '9') || c = 'i' || c = 'n'

/-- Whether a datum carries content: the empty text, array and table, zero, false and null
do not. -/
def isPresent : Datum → Bool
  | .null => false
  | .boolean value => value
  | .integer value => value ≠ 0
  | .real lexeme => isNonzero lexeme
  | .moment _ => true
  | .text value => value ≠ []
  | .array items => items ≠ []
  | .table entries => !entries.isEmpty

end Datum

end CommentDocs
