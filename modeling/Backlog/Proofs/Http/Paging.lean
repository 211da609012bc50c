import Backlog.Proofs.Http.Caller
import Backlog.Proofs.Http.Listing
import Backlog.Proofs.Store.Listing

/-! # Going through a listing

A client that wants to see all tickets of some kind asks for them part by part (`browse`): it starts at the offset
0 and goes on by the limit that each response tells, until it has reached the total.

While the store stays as it is, each response is the page that starts at the offset (`page_of_answer`). So after
some requests the client has seen as many pages, one after the other (`browse_eq`), and pages one after the other are
the start of the list (`flatMap_pages`): `browse_backlog` says **what it has seen in the end**. -/

namespace Backlog

open Json

/-! ### Pages -/

/-- What a response tells of a listing; its tickets are the documents that are written for them. -/
structure Page where
  tickets : List Json := []
  total : ℤ := 0
  limit : ℤ := 0
  offset : ℤ := 0
  deriving Inhabited

namespace Page

/-- A whole number of 64 bits with a sign. -/
def readWord : Read ℤ := readInt (-9223372036854775808) 9223372036854775807

/-- The fields of a page. -/
def fields : List (RecordField Page) := [
  .of "tickets" .required (readList .ok) (ofList id) (·.tickets) fun x v => { x with tickets := v },
  .of "total" .required readWord ofInt (·.total) fun x v => { x with total := v },
  .of "limit" .required readWord ofInt (·.limit) fun x v => { x with limit := v },
  .of "offset" .required readWord ofInt (·.offset) fun x v => { x with offset := v }]

/-- Reads a response. -/
def ofResponse? (a : Response) : Option Page :=
  match a with
  | ⟨200, .json v⟩ => (readRecord fields default v).toOption
  | _ => none

/-- Whether the numbers of a page have 64 bits. -/
def Fits (p : Page) : Prop :=
  Text.fitsSigned64 p.total = true ∧ Text.fitsSigned64 p.limit = true ∧ Text.fitsSigned64 p.offset = true

theorem readWord_ofInt {n : ℤ} (h : Text.fitsSigned64 n = true) : readWord (ofInt n) = .ok n := by
  obtain ⟨hlow, hhigh⟩ := Bool.and_eq_true_iff.mp h
  exact readInt_ofInt (of_decide_eq_true hlow) (of_decide_eq_true hhigh) (by decide) (by decide)

theorem copied {p : Page} (h : p.Fits) : Copied (fun _ => True) p fields default p :=
  .of trivial (readList_ofList fun _ _ => rfl) <| .of trivial (readWord_ofInt h.1) <|
    .of trivial (readWord_ofInt h.2.1) <| .of trivial (readWord_ofInt h.2.2) <| .nil _

theorem ofResponse?_write {ts : List Ticket} {total : ℕ} {f : Filter}
    (h : Fits ⟨ts.map Ticket.write, total, f.limit, f.offset⟩) :
    ofResponse? (.ok (Listing.write ts total f)) = some ⟨ts.map Ticket.write, total, f.limit, f.offset⟩ := by
  have hwritten : Listing.write ts total f =
      ofRecord fields ⟨ts.map Ticket.write, total, f.limit, f.offset⟩ := by
    simp [Listing.write, ofRecord, recordMembers, fields, RecordField.of, ofList, ofNat, ofInt]
  have hread := readRecord_ofRecord (by decide) (copied h)
  rw [hwritten]
  show (readRecord fields default _).toOption = _
  rw [hread]
  rfl

end Page

variable {w : Wish} {answer : ℕ → String → Response} {ts : List Ticket} {size k : ℕ}

/-- The page of a list that starts somewhere. -/
def pageAt (ts : List Ticket) (size start : ℕ) : Page :=
  ⟨((ts.drop start).take size).map Ticket.write, ts.length, size, start⟩

/-- **Pages one after the other** are the start of the list. -/
theorem flatMap_pages (ts : List Ticket) (size k : ℕ) :
    (List.range k).flatMap (fun i => (pageAt ts size (i * size)).tickets) =
      (ts.take (k * size)).map Ticket.write := by
  induction k with
  | zero => simp
  | succ k ih =>
    rw [List.range_succ, List.flatMap_append, ih, Nat.succ_mul, List.take_add, List.map_append]
    simp [pageAt]

/-! ### The client -/

/-- A client: where it goes on, what it has been given so far, and whether it has reached the end. -/
@[ext] structure Browser where
  offset : ℤ := 0
  pages : List Page := []
  ended : Bool := false

/-- What a client does with a response. -/
def Browser.take (b : Browser) (a : Response) : Browser :=
  match Page.ofResponse? a with
  | none => b
  | some p => ⟨b.offset + p.limit, b.pages ++ [p], decide (p.total ≤ b.offset + p.limit)⟩

/-- **A client after some requests**; `answer k` is how the `k`-th is answered. -/
def browse (w : Wish) (answer : ℕ → String → Response) : ℕ → Browser
  | 0 => {}
  | k + 1 =>
    let b := browse w answer k
    if b.ended then b else b.take (answer k (w.listing b.offset).query)

/-- **How many requests it takes**: one for each page, and one if there is none. -/
def requestsFor (total size : ℕ) : ℕ := max 1 ((total + size - 1) / size)

theorem requestsFor_le (hsize : 0 < size) (total : ℕ) : total ≤ requestsFor total size * size := by
  have hceil : total ≤ (total + size - 1) / size * size := by
    have hdiv := Nat.div_add_mod (total + size - 1) size
    have hmod := Nat.mod_lt (total + size - 1) hsize
    rw [Nat.mul_comm] at hdiv
    omega
  exact hceil.trans (Nat.mul_le_mul_right size (Nat.le_max_right 1 _))

theorem lt_of_lt_requestsFor {total : ℕ} (hsize : 0 < size) (hk : k < requestsFor total size) (hpos : 0 < k) :
    k * size < total := by
  have hceil : k < (total + size - 1) / size := by
    unfold requestsFor at hk
    omega
  have hle : (k + 1) * size ≤ total + size - 1 := (Nat.le_div_iff_mul_le hsize).mp hceil
  rw [Nat.succ_mul] at hle
  omega

/-- **What a client has seen** after `k` requests, if each is answered with the page that starts where it went on. -/
theorem browse_eq (hsize : 0 < size) (hanswer : ∀ k start : ℕ, start = 0 ∨ start < ts.length →
    Page.ofResponse? (answer k (w.listing start).query) = some (pageAt ts size start)) :
    ∀ k ≤ requestsFor ts.length size, browse w answer k = {
      offset := (k * size : ℕ)
      pages := (List.range k).map fun i => pageAt ts size (i * size)
      ended := decide (0 < k ∧ ts.length ≤ k * size) } := by
  intro k
  induction k with
  | zero => simp [browse]
  | succ k ih =>
    intro hk
    -- before the last request the client has not come to the end
    have hstart : k * size = 0 ∨ k * size < ts.length := by
      rcases Nat.eq_zero_or_pos k with rfl | hpos
      · exact Or.inl (Nat.zero_mul size)
      · exact Or.inr (lt_of_lt_requestsFor hsize hk hpos)
    have hgoes : ¬ (0 < k ∧ ts.length ≤ k * size) := by
      rintro ⟨hpos, hle⟩
      have hlt := lt_of_lt_requestsFor hsize hk hpos
      omega
    have hnext : (k + 1) * size = k * size + size := Nat.succ_mul k size
    rw [browse, ih (by omega)]
    simp only [hgoes, decide_false, Bool.false_eq_true, if_false, Browser.take, hanswer k _ hstart]
    refine Browser.ext ?_ ?_ ?_
    · simp [pageAt, hnext]
    · simp [List.range_succ]
    · refine decide_eq_decide.mpr ?_
      simp only [pageAt, hnext]
      omega

/-! ### A store that stays as it is -/

variable {serve : ℕ → Server} {occasion : ℕ → Occasion} {r : Request} {s : Store} {project : String} {q : Project}

/-- **Requests for the tickets of a project**, whichever servers they come to and when: whoever sends them may, and
the store is always the same. -/
structure Visits (serve : ℕ → Server) (occasion : ℕ → Occasion) (r : Request) (s : Store) (project : String) :
    Prop where
  method : r.method = .get
  path : ∃ segment, Route.ofPath? r.path = some ⟨.backlog, segment⟩ ∧ Form.segment? segment = some project
  allowed : ∀ k, ∃ user, (serve k).authorize (occasion k).now .backlog r = .ok user
  store : ∀ k, (serve k).store = s

/-- The answer to the `k`-th request, if it is sent with a query. -/
def answers (serve : ℕ → Server) (occasion : ℕ → Occasion) (r : Request) (k : ℕ) (query : String) : Response :=
  ((serve k).respond (occasion k) { r with query := query }).2.1

theorem Server.respond_backlog {x : Server} {o : Occasion} {segment user : String} {a : Response}
    (hmethod : r.method = .get) (hpath : Route.ofPath? r.path = some ⟨.backlog, segment⟩)
    (hsegment : Form.segment? segment = some project) (huser : x.authorize o.now .backlog r = .ok user)
    (ha : x.listTickets project r.query = .ok a) : (x.respond o r).2.1 = a := by
  have hhandle : (x.handle o r).response = a := by
    rw [handle_of_route hpath (by simp [hmethod])]
    simp [huser, answerAs, hmethod, Resource.action?, Resource.shown?, hsegment, perform, look, ha, reply]
  show sent r (x.handle o r).response = a
  rw [hhandle, sent, if_neg (by simp [hmethod])]

/-- **Each answer is the page** that starts at the offset. -/
theorem Visits.page_of_answer (hv : Visits serve occasion r s project) (hproject : s.project? project = some q)
    (hlimit : ∀ n ∈ w.limit, Text.fitsSigned64 n = true) (hrows : Text.fitsSigned64 s.tickets.length = true)
    {start : ℕ} (hstart : start = 0 ∨ start < (s.matching (w.filter project 0)).length) :
    Page.ofResponse? (answers serve occasion r k (w.listing start).query) =
      some (pageAt (s.matching (w.filter project 0)) w.size start) := by
  obtain ⟨segment, hpath, hsegment⟩ := hv.path
  obtain ⟨user, huser⟩ := hv.allowed k
  have hcount : (s.matching (w.filter project 0)).length ≤ s.tickets.length := by
    rw [s.length_matching]
    exact List.length_filter_le _ _
  have hfits : ∀ n : ℕ, n ≤ s.tickets.length → Text.fitsSigned64 n = true := by
    simp only [Text.fitsSigned64, Bool.and_eq_true, decide_eq_true_eq] at hrows ⊢
    omega
  have hsize : Text.fitsSigned64 w.size = true := by
    have heq := w.size_eq
    simp only [Text.fitsSigned64, Bool.and_eq_true, decide_eq_true_eq]
    omega
  have hoffset : Text.fitsSigned64 start = true := hfits start (by omega)
  have hlist : (serve k).listTickets project (w.listing start).query = .ok (.ok (Listing.write
      (s.list (w.filter project start)) (s.count (w.filter project start)) (w.filter project start))) := by
    have hquery := Server.listTickets_query (x := serve k) (by rw [hv.store k]; exact hproject) hlimit hoffset
      (Int.natCast_nonneg start)
    rwa [hv.store k] at hquery
  have hpart : s.list (w.filter project start) = ((s.matching (w.filter project 0)).drop start).take w.size :=
    s.list_eq_take (f := w.filter project start) (Int.natCast_nonneg w.size)
  have htotal : s.count (w.filter project start) = (s.matching (w.filter project 0)).length :=
    (s.length_matching _).symm
  rw [hpart, htotal] at hlist
  rw [answers, Server.respond_backlog (r := { r with query := (w.listing start).query }) hv.method hpath hsegment
    huser hlist]
  exact Page.ofResponse?_write ⟨hfits _ hcount, hsize, hoffset⟩

/-! ### What a client has seen -/

/-- **The tickets that are wanted**, in the order of their ranks; strictly, if no two tickets share a rank. -/
structure Store.Listed (s : Store) (w : Wish) (project : String) (ts : List Ticket) : Prop where
  all : ts.Perm (s.tickets.filter (w.accepts project))
  sorted : ts.Pairwise fun t u => ∃ i j, t.rank = some i ∧ u.rank = some j ∧ i ≤ j
  strict : ((s.ticketsOf project).map (·.rank)).Nodup →
    ts.Pairwise fun t u => ∃ i j, t.rank = some i ∧ u.rank = some j ∧ i < j

theorem Store.listed_matching (hranks : ∀ t ∈ s.ticketsOf project, t.rank.isSome = true) (w : Wish) :
    s.Listed w project (s.matching (w.filter project 0)) := by
  have hall : (s.matching (w.filter project 0)).Perm (s.tickets.filter (w.accepts project)) := by
    have hsame : (w.filter project 0).accepts = w.accepts project := by
      funext t
      simp [Filter.accepts, Wish.accepts, Wish.filter, BEq.comm (a := project)]
    have hperm := s.matching_perm (w.filter project 0)
    rwa [hsame] at hperm
  have hof : (s.tickets.filter (w.accepts project)).Sublist (s.ticketsOf project) := by
    refine List.monotone_filter_right _ fun t ht => ?_
    simp only [Wish.accepts, Bool.and_eq_true] at ht
    exact ht.1.1
  have hsorted : (s.matching (w.filter project 0)).Pairwise fun t u =>
      ∃ i j, t.rank = some i ∧ u.rank = some j ∧ i ≤ j := by
    refine (s.sorted_matching _).imp_of_mem fun {t u} ht hu hbefore => ?_
    obtain ⟨i, hi⟩ := Option.isSome_iff_exists.mp (hranks t (hof.subset (hall.subset ht)))
    obtain ⟨j, hj⟩ := Option.isSome_iff_exists.mp (hranks u (hof.subset (hall.subset hu)))
    exact ⟨i, j, hi, hj, Ticket.rank_le_of_listedBefore hi hj hbefore⟩
  refine ⟨hall, hsorted, fun hdistinct => ?_⟩
  have hnodup : ((s.matching (w.filter project 0)).map (·.rank)).Nodup :=
    (hall.map _).nodup_iff.mpr (hdistinct.sublist (hof.map _))
  refine (hsorted.and (List.pairwise_map.mp hnodup)).imp ?_
  rintro t u ⟨⟨i, j, hi, hj, hle⟩, hne⟩
  refine ⟨i, j, hi, hj, lt_of_le_of_ne hle ?_⟩
  rintro rfl
  exact hne (hi.trans hj.symm)

/-- **A client has seen tickets**, all of them and each once: it has come to the end, and each page told how many
there are. -/
structure Browser.Saw (b : Browser) (ts : List Ticket) (size : ℕ) : Prop where
  ended : b.ended = true
  tickets : b.pages.flatMap (·.tickets) = ts.map Ticket.write
  requests : b.pages.length = requestsFor ts.length size
  totals : ∀ p ∈ b.pages, p.total = ts.length ∧ p.limit = size

/-- **What a client has seen in the end** that goes through the tickets of a project while the store stays as it is:
the tickets that it wanted in the order of their ranks. It takes one request for each page and no more. -/
theorem browse_backlog (hv : Visits serve occasion r s project) (hproject : s.project? project = some q)
    (hranks : ∀ t ∈ s.ticketsOf project, t.rank.isSome = true)
    (hlimit : ∀ n ∈ w.limit, Text.fitsSigned64 n = true) (hrows : Text.fitsSigned64 s.tickets.length = true) :
    ∃ ts, s.Listed w project ts ∧
      (browse w (answers serve occasion r) (requestsFor ts.length w.size)).Saw ts w.size ∧
      (∀ k < requestsFor ts.length w.size, (browse w (answers serve occasion r) k).ended = false) ∧
      (w.size : ℤ) = max 1 (min 1000 (w.limit.getD 100)) := by
  obtain ⟨ts, hts⟩ : ∃ ts, ts = s.matching (w.filter project 0) := ⟨_, rfl⟩
  have hanswer : ∀ k start : ℕ, start = 0 ∨ start < ts.length →
      Page.ofResponse? (answers serve occasion r k (w.listing start).query) = some (pageAt ts w.size start) := by
    intro k start hstart
    rw [hts] at hstart ⊢
    exact hv.page_of_answer hproject hlimit hrows hstart
  have hbrowse := browse_eq w.size_pos hanswer
  refine ⟨ts, hts ▸ Store.listed_matching hranks w, ?_, fun k hk => ?_, w.size_eq⟩
  · have hlast := requestsFor_le w.size_pos ts.length
    rw [hbrowse _ le_rfl]
    refine ⟨decide_eq_true ⟨Nat.lt_of_lt_of_le Nat.one_pos (Nat.le_max_left 1 _), hlast⟩, ?_, by simp, ?_⟩
    · rw [List.flatMap_map, flatMap_pages, List.take_of_length_le hlast]
    · rintro p hp
      obtain ⟨i, -, rfl⟩ := List.mem_map.mp hp
      exact ⟨rfl, rfl⟩
  · rw [hbrowse k hk.le]
    refine decide_eq_false ?_
    rintro ⟨hpos, hle⟩
    have hlt := lt_of_lt_requestsFor w.size_pos hk hpos
    omega

/-- A request for the tickets of the shop. -/
def asking : Request where
  method := .get
  path := "/api/v1/projects/p/tickets"

/-- A server that knows the shop and lets everybody in. -/
def Server.shop : Server := visited .trusting ⟨.none, none⟩

theorem Server.visits_shop : Visits (fun _ => shop) (fun _ => anyTime) asking Store.shopStore "p" where
  method := rfl
  path := ⟨"p", by show Route.ofPath? "/api/v1/projects/p/tickets" = some ⟨.backlog, "p"⟩; decide +kernel,
    by decide +kernel⟩
  allowed := fun _ => ⟨_, rfl⟩
  store := fun _ => rfl

/-- A client that wants no tickets at a time is given one, and has seen both after two requests. -/
theorem browse_backlog_shop : ∃ ts, Store.shopStore.Listed ⟨none, none, some 0⟩ "p" ts ∧
    (browse ⟨none, none, some 0⟩ (answers (fun _ => Server.shop) (fun _ => anyTime) asking) 2).Saw ts 1 ∧
    (browse ⟨none, none, some 0⟩ (answers (fun _ => Server.shop) (fun _ => anyTime) asking) 1).ended = false := by
  obtain ⟨ts, hts, hsaw, hgoes, -⟩ := browse_backlog (w := ⟨none, none, some 0⟩) Server.visits_shop
    (q := (Store.shopStore.project? "p").getD default) rfl (by decide) (by simp [Text.fitsSigned64]) (by decide)
  have hlength : ts.length = 2 := hts.all.length_eq.trans (by decide)
  rw [hlength] at hsaw hgoes
  exact ⟨ts, hts, hsaw, hgoes 1 (by decide)⟩

end Backlog
