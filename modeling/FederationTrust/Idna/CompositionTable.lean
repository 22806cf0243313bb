import FederationTrust.Idna.RangeText

/-!
# Canonical compositions

The characters of domain names that are composed of two others, with the two of them
after the letter `P`. Hangul syllables are composed by arithmetic and not listed.
-/

namespace FederationTrust

namespace Idna

def compositionLines : List String := [
  "e0P61.300 0P61.301 0P61.302 0P61.303 0P61.308 0P61.30a 1P63.327 0P65.300 0P65.301 0P65.302 ",
  "0P65.308 0P69.300 0P69.301 0P69.302 0P69.308 1P6e.303 0P6f.300 0P6f.301 0P6f.302 0P6f.303 ",
  "0P6f.308 2P75.300 0P75.301 0P75.302 0P75.308 0P79.301 1P79.308 1P61.304 1P61.306 1P61.328 ",
  "1P63.301 1P63.302 1P63.307 1P63.30c 1P64.30c 3P65.304 1P65.306 1P65.307 1P65.328 1P65.30c ",
  "1P67.302 1P67.306 1P67.307 1P67.327 1P68.302 3P69.303 1P69.304 1P69.306 1P69.328 5P6a.302 ",
  "1P6b.327 2P6c.301 1P6c.327 1P6c.30c 5P6e.301 1P6e.327 1P6e.30c 4P6f.304 1P6f.306 1P6f.30b ",
  "3P72.301 1P72.327 1P72.30c 1P73.301 1P73.302 1P73.327 1P73.30c 1P74.327 1P74.30c 3P75.303 ",
  "1P75.304 1P75.306 1P75.30a 1P75.30b 1P75.328 1P77.302 1P79.302 2P7a.301 1P7a.307 1P7a.30c ",
  "22P6f.31b eP75.31b 1dP61.30c 1P69.30c 1P6f.30c 1P75.30c 1Pfc.304 1Pfc.301 1Pfc.30c 1Pfc.300 ",
  "2Pe4.304 1P227.304 1Pe6.304 3P67.30c 1P6b.30c 1P6f.328 1P1eb.304 1P292.30c 0P6a.30c ",
  "4P67.301 3P6e.300 1Pe5.301 1Pe6.301 1Pf8.301 1P61.30f 1P61.311 1P65.30f 1P65.311 1P69.30f ",
  "1P69.311 1P6f.30f 1P6f.311 1P72.30f 1P72.311 1P75.30f 1P75.311 1P73.326 1P74.326 3P68.30c ",
  "7P61.307 1P65.327 1Pf6.304 1Pf5.304 1P6f.307 1P22f.304 1P79.304 15cP3ca.301 1bP3b1.301 ",
  "0P3b5.301 0P3b7.301 0P3b9.301 0P3cb.301 19P3b9.308 0P3c5.308 0P3bf.301 0P3c5.301 0P3c9.301 ",
  "6aP438.306 16P435.300 0P435.308 1P433.301 3P456.308 4P43a.301 0P438.300 0P443.306 ",
  "18P475.30f 4aP436.306 eP430.306 1P430.308 3P435.306 3P4d9.308 1P436.308 1P437.308 3P438.304 ",
  "1P438.308 1P43e.308 3P4e9.308 1P44d.308 1P443.304 1P443.308 1P443.30b 1P447.308 3P44b.308 ",
  "128P627.653 0P627.654 0P648.654 0P627.655 0P64a.654 99P6d5.654 1P6c1.654 10P6d2.654 ",
  "255P928.93c 7P930.93c 2P933.93c 96P9c7.9be 0P9c7.9d7 17bPb47.b56 2Pb47.b3e 0Pb47.b57 ",
  "47Pb92.bd7 35Pbc6.bbe 0Pbc7.bbe 0Pbc6.bd7 7bPc46.c56 77Pcbf.cd5 6Pcc6.cd5 0Pcc6.cd6 ",
  "1Pcc6.cc2 0Pcca.cd5 7ePd46.d3e 0Pd47.d3e 0Pd46.d57 8dPdd9.dca 1Pdd9.dcf 0Pddc.dca 0Pdd9.ddf ",
  "247P1025.102e adfP1b05.1b35 1P1b07.1b35 1P1b09.1b35 1P1b0b.1b35 1P1b0d.1b35 3P1b11.1b35 ",
  "28P1b3a.1b35 1P1b3c.1b35 2P1b3e.1b35 0P1b3f.1b35 1P1b42.1b35 2bdP61.325 1P62.307 1P62.323 ",
  "1P62.331 1Pe7.301 1P64.307 1P64.323 1P64.331 1P64.327 1P64.32d 1P113.300 1P113.301 1P65.32d ",
  "1P65.330 1P229.306 1P66.307 1P67.304 1P68.307 1P68.323 1P68.308 1P68.327 1P68.32e 1P69.330 ",
  "1Pef.301 1P6b.301 1P6b.323 1P6b.331 1P6c.323 1P1e37.304 1P6c.331 1P6c.32d 1P6d.301 1P6d.307 ",
  "1P6d.323 1P6e.307 1P6e.323 1P6e.331 1P6e.32d 1Pf5.301 1Pf5.308 1P14d.300 1P14d.301 1P70.301 ",
  "1P70.307 1P72.307 1P72.323 1P1e5b.304 1P72.331 1P73.307 1P73.323 1P15b.307 1P161.307 ",
  "1P1e63.307 1P74.307 1P74.323 1P74.331 1P74.32d 1P75.324 1P75.330 1P75.32d 1P169.301 ",
  "1P16b.308 1P76.303 1P76.323 1P77.300 1P77.301 1P77.308 1P77.307 1P77.323 1P78.307 1P78.308 ",
  "1P79.307 1P7a.302 1P7a.323 1P7a.331 0P68.331 0P74.308 0P77.30a 0P79.30a 7P61.323 1P61.309 ",
  "1Pe2.301 1Pe2.300 1Pe2.309 1Pe2.303 1P1ea1.302 1P103.301 1P103.300 1P103.309 1P103.303 ",
  "1P1ea1.306 1P65.323 1P65.309 1P65.303 1Pea.301 1Pea.300 1Pea.309 1Pea.303 1P1eb9.302 ",
  "1P69.309 1P69.323 1P6f.323 1P6f.309 1Pf4.301 1Pf4.300 1Pf4.309 1Pf4.303 1P1ecd.302 ",
  "1P1a1.301 1P1a1.300 1P1a1.309 1P1a1.303 1P1a1.323 1P75.323 1P75.309 1P1b0.301 1P1b0.300 ",
  "1P1b0.309 1P1b0.303 1P1b0.323 1P79.300 1P79.323 1P79.309 1P79.303 6P3b1.313 0P3b1.314 ",
  "0P1f00.300 0P1f01.300 0P1f00.301 0P1f01.301 0P1f00.342 0P1f01.342 8P3b5.313 0P3b5.314 ",
  "0P1f10.300 0P1f11.300 0P1f10.301 0P1f11.301 aP3b7.313 0P3b7.314 0P1f20.300 0P1f21.300 ",
  "0P1f20.301 0P1f21.301 0P1f20.342 0P1f21.342 8P3b9.313 0P3b9.314 0P1f30.300 0P1f31.300 ",
  "0P1f30.301 0P1f31.301 0P1f30.342 0P1f31.342 8P3bf.313 0P3bf.314 0P1f40.300 0P1f41.300 ",
  "0P1f40.301 0P1f41.301 aP3c5.313 0P3c5.314 0P1f50.300 0P1f51.300 0P1f50.301 0P1f51.301 ",
  "0P1f50.342 0P1f51.342 8P3c9.313 0P3c9.314 0P1f60.300 0P1f61.300 0P1f60.301 0P1f61.301 ",
  "0P1f60.342 0P1f61.342 8P3b1.300 1P3b5.300 1P3b7.300 1P3b9.300 1P3bf.300 1P3c5.300 1P3c9.300 ",
  "33P3b1.306 0P3b1.304 4P3b1.342 fP3b7.342 9P3b9.306 0P3b9.304 0P3ca.300 3P3b9.342 0P3ca.342 ",
  "8P3c5.306 0P3c5.304 0P3cb.300 1P3c1.313 0P3c1.314 0P3c5.342 0P3cb.342 eP3c9.342 ",
  "1a3P2190.338 0P2192.338 12P2194.338 1eP21d0.338 0P21d4.338 0P21d2.338 34P2203.338 ",
  "4P2208.338 2P220b.338 17P2223.338 1P2225.338 1aP223c.338 2P2243.338 2P2245.338 1P2248.338 ",
  "16P3d.338 1P2261.338 aP224d.338 0P3c.338 0P3e.338 0P2264.338 0P2265.338 2P2272.338 ",
  "0P2273.338 2P2276.338 0P2277.338 6P227a.338 0P227b.338 2P2282.338 0P2283.338 2P2286.338 ",
  "0P2287.338 22P22a2.338 0P22a8.338 0P22a9.338 0P22ab.338 30P227c.338 0P227d.338 0P2291.338 ",
  "0P2292.338 6P22b2.338 0P22b3.338 0P22b4.338 0P22b5.338 d5eP304b.3099 1P304d.3099 ",
  "1P304f.3099 1P3051.3099 1P3053.3099 1P3055.3099 1P3057.3099 1P3059.3099 1P305b.3099 ",
  "1P305d.3099 1P305f.3099 1P3061.3099 2P3064.3099 1P3066.3099 1P3068.3099 6P306f.3099 ",
  "0P306f.309a 1P3072.3099 0P3072.309a 1P3075.3099 0P3075.309a 1P3078.3099 0P3078.309a ",
  "1P307b.3099 0P307b.309a 16P3046.3099 9P309d.3099 dP30ab.3099 1P30ad.3099 1P30af.3099 ",
  "1P30b1.3099 1P30b3.3099 1P30b5.3099 1P30b7.3099 1P30b9.3099 1P30bb.3099 1P30bd.3099 ",
  "1P30bf.3099 1P30c1.3099 2P30c4.3099 1P30c6.3099 1P30c8.3099 6P30cf.3099 0P30cf.309a ",
  "1P30d2.3099 0P30d2.309a 1P30d5.3099 0P30d5.309a 1P30d8.3099 0P30d8.309a 1P30db.3099 ",
  "0P30db.309a 16P30a6.3099 2P30ef.3099 0P30f0.3099 0P30f1.3099 0P30f2.3099 3P30fd.3099 ",
  "d4caP105d2.307 1aP105da.307 ab5P11099.110ba 1P1109b.110ba eP110a5.110ba 82P11131.11127 ",
  "0P11132.11127 21bP11347.1133e 0P11347.11357 36P11382.113c9 1P11384.113bb 8P1138b.113c2 ",
  "2P11390.113c9 33P113c2.113c2 1P113c2.113b8 0P113c2.113c9 f2P114b9.114ba 0P114b9.114b0 ",
  "1P114b9.114bd fbP115b8.115af 0P115b9.115af 37cP11935.11930 47e8P1611e.1611e 0P1611e.16129 ",
  "0P1611e.1611f 0P16129.1611f 0P1611e.16120 0P16121.1611f 0P16122.1611f 0P16121.16120 ",
  "c3fP16d67.16d67 0P16d63.16d67 0P16d69.16d67 "]

def compositions : List RangeText.Entry :=
  RangeText.read compositionLines

end Idna

end FederationTrust
