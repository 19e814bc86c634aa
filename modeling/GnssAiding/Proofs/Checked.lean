/-
Checked reads that are in range: each is the plain read that it checks.
-/
import GnssAiding.Bytes
import GnssAiding.Error

namespace GnssAiding

namespace Checked

theorem get_eq {α : Type} {as : List α} {i : Nat} {a : α} (h : as[i]? = some a) :
    get as i = .ok a := by
  simp only [get, h]

theorem get_eq_getD {data : Bytes} {i : Nat} (h : i < data.length) :
    get data i = .ok (data.getD i 0) := by
  rw [get_eq (List.getElem?_eq_getElem h), List.getD_eq_getElem?_getD,
    List.getElem?_eq_getElem h, Option.getD_some]

theorem slice_eq_extract {data : Bytes} {start stop : Nat} (hle : start ≤ stop)
    (hstop : stop ≤ data.length) :
    slice data start stop = .ok (Bytes.extract start (stop - start) data) :=
  if_pos ⟨hle, hstop⟩

end Checked

end GnssAiding
