import Backlog.Http.Server
import Backlog.Proofs.Auth.Token
import Backlog.Proofs.Http.Form
import Backlog.Proofs.Named

/-! # Queries for listings

A client writes down what it wants in a query (`Wish`, `Listing.query`), which the server reads as it is meant
(`Listing.ofQuery?_query`). So the server answers with the part of the listing that starts at the offset, with how
much there is of all, and with the size of the parts (`listTickets_query`). -/

namespace Backlog

variable {project : String} {l : Listing} {q : Project} {offset : ℤ}

/-! ### Queries that are written -/

theorem Form.isPlain_of_isDigit {c : Char} (h : c.isDigit = true) : isPlain c = true := by
  have hascii : c.toNat < 128 := by
    have hnine : c.val ≤ 57 := by simpa using (Bool.and_eq_true_iff.mp h).2
    exact Nat.lt_of_le_of_lt (UInt32.le_iff_toNat_le.mp hnine) (by decide)
  have hdigit (d : Char) (hd : d.isDigit = false) : c ≠ d := by
    rintro rfl
    rw [h] at hd
    cases hd
  exact decide_eq_true ⟨hascii, hdigit _ rfl, hdigit _ rfl, hdigit _ rfl, hdigit _ rfl⟩

theorem Form.all_isPlain_toString (n : ℤ) : (toString n).toList.all isPlain = true := by
  refine List.all_eq_true.mpr fun c hc => ?_
  rw [Text.toList_toString, List.mem_append] at hc
  rcases hc with hsign | hdigit
  · split_ifs at hsign with hneg
    · rw [List.mem_singleton.mp hsign]; decide
    · cases hsign
  · exact isPlain_of_isDigit (Nat.isDigit_of_mem_toDigits (by decide) (by decide) hdigit)

namespace Listing

/-- A field that is given or not. -/
def given (name : String) (o : Option String) : List (String × String) := (o.map fun v => (name, v)).toList

/-- The fields of a query that asks for a listing. -/
def fields (l : Listing) : List (String × String) :=
  given "status" l.status ++ (given "type" l.type ++
    (given "limit" (l.limit.map toString) ++ given "offset" (l.offset.map toString)))

/-- **A query** that asks for a listing. -/
def query (l : Listing) : String := Form.write l.fields

theorem filter_given (name name' : String) (o : Option String) :
    (given name o).filter (·.1 == name') = if name = name' then given name o else [] := by
  cases o <;> by_cases h : name = name' <;> simp [given, h]

theorem single?_given {fields : List (String × String)} {name : String} {o : Option String}
    (h : fields.filter (·.1 == name) = given name o) : single? fields name = some o := by
  rw [single?, h]
  cases o <;> rfl

theorem number?_given {fields : List (String × String)} {name : String} {o : Option ℤ}
    (h : fields.filter (·.1 == name) = given name (o.map toString))
    (hfits : ∀ n ∈ o, Text.fitsSigned64 n = true) : number? fields name = some o := by
  rw [number?, single?_given h]
  cases o with
  | none => rfl
  | some n =>
    have hnumber : Token.wholeNumber? (toString n) = some n :=
      Token.wholeNumber?_eq_some.mpr ⟨Token.spells_toString n, hfits n rfl⟩
    show (Token.wholeNumber? (toString n)).map some = _
    rw [hnumber]
    rfl

theorem plainField_of_given {name : String} {o : Option String} (hname : name.toList.all Form.isPlain = true)
    (ho : ∀ w ∈ o, w.toList.all Form.isPlain = true) : ∀ f ∈ given name o, Form.PlainField f := by
  cases o with
  | none => simp [given]
  | some w =>
    intro f hf
    obtain rfl := List.mem_singleton.mp hf
    exact ⟨hname, ho w rfl⟩

/-- **A query is read as it is meant**, if its words are plain and its numbers of 64 bits. -/
theorem ofQuery?_query (hstatus : ∀ w ∈ l.status, w.toList.all Form.isPlain = true)
    (htype : ∀ w ∈ l.type, w.toList.all Form.isPlain = true)
    (hlimit : ∀ n ∈ l.limit, Text.fitsSigned64 n = true) (hoffset : ∀ n ∈ l.offset, Text.fitsSigned64 n = true) :
    ofQuery? l.query = some l := by
  have hnumber : ∀ o : Option ℤ, ∀ w ∈ o.map toString, w.toList.all Form.isPlain = true := by
    rintro o w hw
    obtain ⟨n, -, rfl⟩ := Option.mem_map.mp hw
    exact Form.all_isPlain_toString n
  have hplain : ∀ f ∈ l.fields, Form.PlainField f :=
    List.forall_mem_append.mpr ⟨plainField_of_given (by decide) hstatus,
      List.forall_mem_append.mpr ⟨plainField_of_given (by decide) htype,
        List.forall_mem_append.mpr ⟨plainField_of_given (by decide) (hnumber _),
          plainField_of_given (by decide) (hnumber _)⟩⟩⟩
  have hfields : Form.fields l.query = l.fields := Form.fields_write hplain
  have hs : single? l.fields "status" = some l.status :=
    single?_given (by simp [fields, filter_given])
  have ht : single? l.fields "type" = some l.type :=
    single?_given (by simp [fields, filter_given])
  have hl : number? l.fields "limit" = some l.limit :=
    number?_given (by simp [fields, filter_given]) hlimit
  have ho : number? l.fields "offset" = some l.offset :=
    number?_given (by simp [fields, filter_given]) hoffset
  simp [ofQuery?, hfields, hs, ht, hl, ho]

end Listing

/-! ### What a client wants -/

/-- **What a client wants to see** of a project's tickets, in parts of what size. -/
structure Wish where
  status : Option TicketStatus := none
  type : Option TicketType := none
  limit : Option ℤ := none

namespace Wish

variable {w : Wish}

/-- Whether a ticket of a project is wanted. -/
def accepts (w : Wish) (project : String) (t : Ticket) : Bool :=
  t.project == project && w.status.all (· == t.status) && w.type.all (· == t.type)

/-- The part of the listing that starts somewhere. -/
def listing (w : Wish) (offset : ℤ) : Listing :=
  ⟨w.status.map Named.name, w.type.map Named.name, w.limit, some offset⟩

/-- How many tickets a part has, unless it is the last one. -/
def size (w : Wish) : ℕ := (w.listing 0).pageSize.toNat

/-- The filter of a part. -/
def filter (w : Wish) (project : String) (offset : ℤ) : Filter :=
  ⟨some project, w.status, w.type, w.size, offset⟩

theorem size_pos (w : Wish) : 0 < w.size := by
  unfold size Listing.pageSize
  omega

/-- A part has 100 tickets unless the client wants another number, and from 1 to 1000 whatever it wants. -/
theorem size_eq (w : Wish) : (w.size : ℤ) = max 1 (min 1000 (w.limit.getD 100)) := by
  have hpage : (w.listing 0).pageSize = max 1 (min 1000 (w.limit.getD 100)) := rfl
  rw [size, hpage]
  omega

theorem named_map {α : Type} [Named α] [Named.NameFinds α] (o : Option α) :
    Listing.named (o.map Named.name) = .ok o := by
  cases o with
  | none => rfl
  | some a =>
    show (Named.parse (Named.name a)).map some = _
    rw [Named.parse, Named.NameFinds.ofName?_name]
    rfl

theorem filter_listing (hoffset : 0 ≤ offset) :
    (w.listing offset).filter project = .ok (w.filter project offset) := by
  have hstatus : Listing.named (w.listing offset).status = .ok w.status := named_map w.status
  have htype : Listing.named (w.listing offset).type = .ok w.type := named_map w.type
  have hsize : (w.listing offset).pageSize = w.size := by rw [size_eq]; rfl
  have hstart : (w.listing offset).start = offset := max_eq_right hoffset
  rw [Listing.filter, hstatus, htype, hsize, hstart]
  rfl

theorem ofQuery?_query_listing (hlimit : ∀ n ∈ w.limit, Text.fitsSigned64 n = true)
    (hoffset : Text.fitsSigned64 offset = true) :
    Listing.ofQuery? (w.listing offset).query = some (w.listing offset) := by
  have hstatus : ∀ x : TicketStatus, (Named.name x).toList.all Form.isPlain = true := by
    intro x; cases x <;> decide
  have htype : ∀ x : TicketType, (Named.name x).toList.all Form.isPlain = true := by
    intro x; cases x <;> decide
  refine Listing.ofQuery?_query ?_ ?_ hlimit (by rintro _ ⟨⟩; exact hoffset)
  · rintro _ hx
    obtain ⟨x, -, rfl⟩ := Option.mem_map.mp hx
    exact hstatus x
  · rintro _ hx
    obtain ⟨x, -, rfl⟩ := Option.mem_map.mp hx
    exact htype x

end Wish

/-- **What the server answers** to the query of a part: its tickets, how many there are of all, and how many a part
has. -/
theorem Server.listTickets_query {x : Server} {w : Wish} (hproject : x.store.project? project = some q)
    (hlimit : ∀ n ∈ w.limit, Text.fitsSigned64 n = true) (hoffset : Text.fitsSigned64 offset = true)
    (hstart : 0 ≤ offset) :
    x.listTickets project (w.listing offset).query = .ok (.ok (Listing.write
      (x.store.list (w.filter project offset)) (x.store.count (w.filter project offset))
      (w.filter project offset))) := by
  have hlook : lookUp (x.store.project project) = .ok q := by
    rw [lookUp, Store.project, hproject]
    rfl
  have hfilter : (w.listing offset).filter project = .ok (w.filter project offset) := Wish.filter_listing hstart
  unfold listTickets
  rw [Wish.ofQuery?_query_listing hlimit hoffset]
  simp [hlook, hfilter, bind, Except.bind, Except.mapError, pure, Except.pure]

end Backlog
