import SelfCert.Curve.Ed25519
import SelfCert.Curve.Secp256k1
import SelfCert.Proofs.Number.Prime

/-!
# The primes of the curves

The orders of the two fields and of the group of secp256k1 are prime. One chain leads to all three
of them.
-/

namespace SelfCert

/-- A chain to the primes of the curves. -/
def curvePrimes : PrimeChain :=
  [⟨3, 2, [2]⟩, ⟨5, 2, [2]⟩, ⟨7, 3, [2, 3]⟩, ⟨11, 2, [2, 5]⟩, ⟨13, 2, [2, 3]⟩, ⟨17, 3, [2]⟩,
    ⟨19, 2, [2, 3]⟩, ⟨23, 5, [2, 11]⟩, ⟨29, 2, [2, 7]⟩, ⟨31, 3, [2, 3, 5]⟩, ⟨37, 2, [2, 3]⟩,
    ⟨41, 6, [2, 5]⟩, ⟨43, 3, [2, 3, 7]⟩, ⟨47, 5, [2, 23]⟩, ⟨53, 2, [2, 13]⟩, ⟨59, 2, [2, 29]⟩,
    ⟨67, 2, [2, 3, 11]⟩, ⟨73, 5, [2, 3]⟩, ⟨83, 2, [2, 41]⟩, ⟨97, 5, [2, 3]⟩, ⟨101, 2, [2, 5]⟩,
    ⟨103, 5, [2, 3, 17]⟩, ⟨107, 2, [2, 53]⟩, ⟨109, 6, [2, 3]⟩, ⟨113, 3, [2, 7]⟩,
    ⟨127, 3, [2, 3, 7]⟩, ⟨131, 2, [2, 5, 13]⟩, ⟨149, 2, [2, 37]⟩, ⟨173, 2, [2, 43]⟩,
    ⟨199, 3, [2, 3, 11]⟩, ⟨223, 3, [2, 3, 37]⟩, ⟨239, 7, [2, 7, 17]⟩, ⟨271, 6, [2, 3, 5]⟩,
    ⟨293, 2, [2, 73]⟩, ⟨353, 3, [2, 11]⟩, ⟨419, 2, [2, 11, 19]⟩, ⟨443, 2, [2, 13, 17]⟩,
    ⟨461, 2, [2, 5, 23]⟩, ⟨479, 13, [2, 239]⟩, ⟨487, 3, [2, 3]⟩, ⟨631, 3, [2, 3, 5, 7]⟩,
    ⟨797, 2, [2, 199]⟩, ⟨887, 5, [2, 443]⟩, ⟨971, 6, [2, 5, 97]⟩, ⟨991, 6, [2, 3, 5, 11]⟩,
    ⟨1373, 2, [2, 7]⟩, ⟨1409, 3, [2, 11]⟩, ⟨1627, 3, [2, 3, 271]⟩, ⟨1723, 3, [2, 3, 7, 41]⟩,
    ⟨1871, 14, [2, 5, 11, 17]⟩, ⟨2011, 3, [2, 3, 5, 67]⟩, ⟨2437, 2, [2, 3, 7, 29]⟩,
    ⟨2621, 2, [2, 5, 131]⟩, ⟨2657, 3, [2, 83]⟩, ⟨2731, 3, [2, 3, 5, 7, 13]⟩,
    ⟨2861, 2, [2, 5, 11, 13]⟩, ⟨3727, 3, [2, 3, 23]⟩, ⟨4051, 10, [2, 3, 5]⟩, ⟨4153, 5, [2, 3, 173]⟩,
    ⟨4423, 3, [2, 3, 11, 67]⟩, ⟨5323, 5, [2, 3, 887]⟩, ⟨7723, 3, [2, 3, 11, 13]⟩,
    ⟨9349, 2, [2, 3, 19, 41]⟩, ⟨9463, 3, [2, 3, 19, 83]⟩, ⟨13441, 11, [2, 3, 5, 7]⟩,
    ⟨16699, 3, [2, 3, 11, 23]⟩, ⟨20113, 10, [2, 3, 419]⟩, ⟨24809, 6, [2, 7, 443]⟩,
    ⟨28181, 2, [2, 5, 1409]⟩, ⟨32573, 2, [2, 17, 479]⟩, ⟨37853, 2, [2, 9463]⟩,
    ⟨41201, 3, [2, 5, 103]⟩, ⟨57467, 2, [2, 59, 487]⟩, ⟨65147, 2, [2, 32573]⟩,
    ⟨75707, 2, [2, 37853]⟩, ⟨85831, 3, [2, 3, 5, 2861]⟩, ⟨96557, 2, [2, 101, 239]⟩,
    ⟨120233, 3, [2, 7, 19, 113]⟩, ⟨132049, 26, [2, 3, 7, 131]⟩, ⟨305873, 3, [2, 7, 2731]⟩,
    ⟨430751, 17, [2, 5, 1723]⟩, ⟨569003, 2, [2, 7, 97, 419]⟩, ⟨1206781, 10, [2, 3, 5, 20113]⟩,
    ⟨1627771, 3, [2, 3, 5, 29, 1871]⟩, ⟨1923133, 2, [2, 3, 43, 3727]⟩,
    ⟨4681609, 23, [2, 3, 97, 2011]⟩, ⟨7240687, 3, [2, 3, 1206781]⟩,
    ⟨8574133, 2, [2, 3, 7, 103, 991]⟩, ⟨13331831, 13, [2, 5, 971, 1373]⟩,
    ⟨44706919, 6, [2, 3, 797, 9349]⟩, ⟨107590001, 3, [2, 5, 7, 29, 53]⟩,
    ⟨545358713, 5, [2, 41, 59, 28181]⟩, ⟨2773320623, 5, [2, 2437, 569003]⟩,
    ⟨72106336199, 7, [2, 13, 2773320623]⟩, ⟨297159362677, 2, [2, 3, 11, 461, 1627771]⟩,
    ⟨1919519569386763, 2, [2, 3, 7, 19, 47, 127, 8574133]⟩,
    ⟨31757755568855353, 10, [2, 3, 31, 107, 223, 4153, 430751]⟩,
    ⟨107361793816595537, 3, [2, 16699, 85831, 4681609]⟩,
    ⟨173378833005251801, 6, [2, 5, 2621, 24809, 13331831]⟩,
    ⟨174723607534414371449, 3, [2, 17, 59, 4051, 120233, 44706919]⟩,
    ⟨22149492674086928081353, 5, [2, 3, 5323, 173378833005251801]⟩,
    ⟨132896956044521568488119, 6, [2, 3, 22149492674086928081353]⟩,
    ⟨29047611873442575647497758179, 2, [2, 293, 305873, 545358713, 297159362677]⟩,
    ⟨341948486974166000522343609283189, 2, [2, 3, 109, 29047611873442575647497758179]⟩,
    ⟨75445702479781427272750846543864801, 7, [2, 3, 5, 75707, 72106336199, 1919519569386763]⟩,
    ⟨255515944373312847190720520512484175977, 3, [2, 7, 11, 1627, 2657, 4423, 41201, 96557, 7240687,
      107590001]⟩,
    ⟨74058212732561358302231226437062788676166966415465897661863160754340907, 2, [2, 3, 353, 57467,
      132049, 1923133, 31757755568855353, 75445702479781427272750846543864801]⟩,
    ⟨205115282021455665897114700593932402728804164701536103180137503955397371, 10, [2, 3, 5, 29, 31,
      7723, 132896956044521568488119, 255515944373312847190720520512484175977]⟩,
    ⟨57896044618658097711785492504343953926634992332820282019728792003956564819949, 2, [2, 3, 65147,
      74058212732561358302231226437062788676166966415465897661863160754340907]⟩,
    ⟨115792089237316195423570985008687907852837564279074904382605163141518161494337, 7, [2, 3, 149,
      631, 107361793816595537, 174723607534414371449, 341948486974166000522343609283189]⟩,
    ⟨115792089237316195423570985008687907853269984665640564039457584007908834671663, 3, [2, 3, 7,
      13441, 205115282021455665897114700593932402728804164701536103180137503955397371]⟩]

theorem isValid_curvePrimes : curvePrimes.isValid := by
  decide +kernel

/-- A number of the chain is prime. -/
private theorem prime_of_mem_curvePrimes {n : Nat} (h : (curvePrimes.map (·.number)).contains n) :
    n.Prime := by
  obtain ⟨step, hstep, rfl⟩ := List.mem_map.mp (List.contains_iff_mem.mp h)
  exact PrimeChain.prime_of_isValid isValid_curvePrimes hstep

theorem Secp256k1.prime_p : Secp256k1.p.Prime :=
  prime_of_mem_curvePrimes (by decide +kernel)

theorem Secp256k1.prime_order : Secp256k1.order.Prime :=
  prime_of_mem_curvePrimes (by decide +kernel)

theorem Ed25519.prime_p : Ed25519.p.Prime :=
  prime_of_mem_curvePrimes (by decide +kernel)

end SelfCert
