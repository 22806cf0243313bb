import FederationTrust.Idna.RangeText

/-!
# Mapping of characters in domain names

What UTS #46, version 17, does with each character beyond ASCII: `V` keeps it, `I`
drops it, `C` puts the given one in its place, `U` and `D` the one so far up or down,
`S` a sequence; within a range marked `A` the first, third and so on become their
successors and the others are kept. A character in no range is not allowed.
-/

namespace FederationTrust

namespace Idna

def mappingLines : List String := [
  "a0D80 0.6V 0S20.308 0V 0D49 0.1V 0I 0V 0S20.304 0.1V 0.1D80 0S20.301 0U307 0.1V 0S20.327 ",
  "0D88 0D4b 0V 0S31.2044.34 0S31.2044.32 0S33.2044.34 0V 0.16U20 0V 0.6U20 0.20V 0.2fA ",
  "0S69.307 0V 0.1S69.6a 0U1 0V 0U1 0.1V 0.5A 0.1S6c.b7 0.7A 0S2bc.6e 0.2dA 0D79 0.5A 0D10c 0V ",
  "0Ud2 0.3A 0Uce 0U1 0V 0.1Ucd 0U1 0.1V 0U4f 0Uca 0Ucb 0U1 0V 0Ucd 0Ucf 0V 0Ud3 0Ud1 0U1 0.2V ",
  "0Ud3 0Ud5 0V 0Ud6 0.5A 0Uda 0U1 0V 0Uda 0.1V 0U1 0V 0Uda 0U1 0V 0.1Ud9 0.3A 0Udb 0U1 0.2V ",
  "0U1 0.6V 0.2S64.17e 0.2S6c.6a 0.2S6e.6a 0.dA 0U1 0.1V 0.fA 0U1 0.1V 0.2S64.7a 0U1 0V 0D61 ",
  "0D38 0.27A 0D82 0V 0.fA 0U1 0.6V 0U2a2b 0U1 0V 0Da3 0U2a28 0.1V 0U1 0V 0Dc3 0U45 0U47 0.7A ",
  "0U1 0.60V 0D248 0D4b 0D248 0D241 0D3b 0D3a 0D35 0D240 0D23f 0.1eV 0S20.306 0S20.307 ",
  "0S20.30a 0S20.328 0S20.303 0S20.30b 0.1V 0D7d 0D275 0D26f 0D26b 0D4f 0.5aV 0.1D40 0V 0D30 ",
  "0S308.301 0U74 0.8V 0I 0.1fV 0.3A 0Dbb 0V 0U1 0V 2S20.3b9 0.2V 0D343 0U74 4S20.301 ",
  "0S20.308.301 0U26 0D2d0 0.2U25 1U40 1.1U3f 0V 0.10U20 1.8U20 0.22V 0U8 0D1e 0D19 0Dd 0D6 ",
  "0D9 0Df 0D16 0V 0.17A 0D36 0D30 0D2f 0V 0D3c 0D40 0V 0U1 0V 0D36 0U1 0.1V 0.2D82 0.fU50 ",
  "0.1fU20 0.2fV 0.1fA 0U1 0.8V 0.35A 0Uf 0.bA 0U1 0.1V 0.5fA 1.25U30 2.2dV 0S565.582 0.2V ",
  "2.2V 1.36V 8.1aV 4.5V 11.15V 1.57V 0S627.674 0S648.674 0S6c7.674 0S64a.674 0.63V 1.2fV ",
  "2.3aV 2.64V e.3aV 2.30V 2.eV 1.1bV 2V 1.aV 5.1fV 7.4aV 1.74V 0S915.93c 0S916.93c 0S917.93c ",
  "0S91c.93c 0S921.93c 0S922.93c 0S92b.93c 0S92f.93c 0.23V 1.7V 2.1V 2.15V 1.6V 1V 3.3V 2.8V ",
  "2.1V 2.3V 8V 4S9a1.9bc 0S9a2.9bc 1S9af.9bc 0.3V 2.18V 2.2V 1.5V 4.1V 2.15V 1.6V 1V ",
  "0Sa32.a3c 1V 0Sa38.a3c 1.1V 2V 1.4V 4.1V 2.2V 3V 7Sa16.a3c 0Sa17.a3c 0Sa1c.a3c 0V 1Sa2b.a3c ",
  "7.10V a.2V 1.8V 1.2V 1.15V 1.6V 1.1V 1.4V 2.9V 1.2V 1.2V 2V f.3V 2.bV 7.6V 1.2V 1.7V 2.1V ",
  "2.15V 1.6V 1.1V 1.4V 2.8V 2.1V 2.2V 7.2V 4Sb21.b3c 0Sb22.b3c 1.4V 2.11V a.1V 1.5V 3.2V 1.3V ",
  "3.1V 1V 1.1V 3.1V 3.2V 3.bV 4.4V 3.2V 1.3V 2V 6V e.14V 5.cV 1.2V 1.16V 1.fV 2.8V 1.2V 1.3V ",
  "7.1V 1.2V 1.1V 2.3V 2.9V 7.15V 1.2V 1.16V 1.9V 1.4V 2.8V 1.2V 1.3V 7.1V 5.2V 1.3V 2.9V 1.2V ",
  "c.cV 1.2V 1.32V 1.2V 1.5V 4.fV 2.19V 1.2V 1.11V 3.17V 1.8V 1V 2.6V 3V 4.5V 1V 1.7V 6.9V ",
  "2.2V c.31V 0Se4d.e32 0.6V 4.1cV 25.1V 1V 1.4V 1.17V 1V 1.bV 0Secd.eb2 0.9V 2.4V 1V 1.6V ",
  "1.9V 2Seab.e99 0Seab.ea1 0.1V 20.bV 0D1 0.35V 0Sf42.fb7 0.3V 1.3V 0Sf4c.fb7 0.3V 0Sf51.fb7 ",
  "0.3V 0Sf56.fb7 0.3V 0Sf5b.fb7 0.bV 0Sf40.fb5 0.2V 4.1V 0Sf71.f72 0V 0Sf71.f74 0Sfb2.f80 ",
  "0Sfb2.f71.f80 0Sfb3.f80 0Sfb3.f71.f80 0.6V 0Sf71.f80 0.10V 0Sf92.fb7 0.3V 1.3V 0Sf9c.fb7 ",
  "0.3V 0Sfa1.fb7 0.3V 0Sfa6.fb7 0.3V 0Sfab.fb7 0.bV 0Sf90.fb5 0.2V 1.eV 1.cV 25.9fV 0.25U1c60 ",
  "1U1c60 5U1c60 2.2bV 0D20 0.61V 0.1I 0.e7V 1.3V 2.6V 1V 1.3V 2.28V 1.3V 2.20V 1.3V 2.6V 1V ",
  "1.3V 2.eV 1.38V 1.3V 2.42V 2.1fV 3.19V 6.55V 2.5D8 2.27fV 1.1bV 3.58V 7.15V 9.17V 9.13V ",
  "c.cV 1.2V 1.1V c.33V 0.1I 0.27V 2.9V 6.9V 6.aV 0.4I 0.9V 6.58V 7.2aV 5.45V a.1eV 1.bV 4.bV ",
  "4V 3.29V 2.4V b.2bV 4.19V 6.aV 3.3dV 2.40V 1.1cV 2.aV 6.9V 6.dV 2.2dV 2.bV 14.4cV 1.a5V ",
  "8.3bV 3.eV 3.32V 0D184e 0D184d 0D1844 0D1842 0.1C442 0D183c 0D1824 0U89c3 0U1 0V 5.2aDbc0 ",
  "2.2Dbc0 0.7V 8.2aV 5.2bV 0D1ccb 0D1c47 0D1ccc 0V 0.1D1ccc 0D1b55 0.7D1ccc 0V 0D1ccd 0D1b1a ",
  "0D1cce 0D1ccd 0.1D1ccc 0D1ccb 0D1ce2 0.1D1af4 0D44 0D1ce5 0.1D1ce4 0D1af1 0.1D1af0 0D1ce6 ",
  "0V 0D1ce4 0D1ce3 0D1c06 0D1ce3 0D1aff 0.1D3e 0D1ce6 0.1D1ce3 0D3c 0D1aeb 0D1ce5 0D37 ",
  "0.2D19ab 0.1D199a 0D1cf9 0D1cf1 0.1D1cef 0.1D19b4 0D19a7 0.1D19a3 0.cV 0D193b 0.21V 0D1b49 ",
  "0D1d39 0D1b48 0D1cae 0D1b43 0D1d3a 0D1b42 0D1b41 0D1b3e 0.2D1b3c 0D2c 0D1b0b 0D1b3c 0D25 ",
  "0D1b0c 0D1b3b 0D1b3d 0.3D1b3c 0D1b3a 0.1D1b31 0D1c0a 0.1D1b2d 0D9c 0.1D1b2e 0D1d41 0.2D1b2c ",
  "0D1a07 0.3fV 0.93A 0U1 0.4V 0S61.2be 0D3a 0.1V 0D1dbf 0V 0.5dA 0U1 0.8V 0.7D8 0.5V 2.5D8 ",
  "2.7V 0.7D8 0.7V 0.7D8 0.5V 2.5D8 2.7V 1D8 1D8 1D8 1D8 0.7V 0.7D8 0V 0D1bc5 0V 0D1bc6 0V ",
  "0D1bc7 0V 0D1bc8 0V 0D1bad 0V 0D1bae 0V 0D1baf 2S1f00.3b9 0S1f01.3b9 0S1f02.3b9 0S1f03.3b9 ",
  "0S1f04.3b9 0S1f05.3b9 0S1f06.3b9 0S1f07.3b9 0S1f00.3b9 0S1f01.3b9 0S1f02.3b9 0S1f03.3b9 ",
  "0S1f04.3b9 0S1f05.3b9 0S1f06.3b9 0S1f07.3b9 0S1f20.3b9 0S1f21.3b9 0S1f22.3b9 0S1f23.3b9 ",
  "0S1f24.3b9 0S1f25.3b9 0S1f26.3b9 0S1f27.3b9 0S1f20.3b9 0S1f21.3b9 0S1f22.3b9 0S1f23.3b9 ",
  "0S1f24.3b9 0S1f25.3b9 0S1f26.3b9 0S1f27.3b9 0S1f60.3b9 0S1f61.3b9 0S1f62.3b9 0S1f63.3b9 ",
  "0S1f64.3b9 0S1f65.3b9 0S1f66.3b9 0S1f67.3b9 0S1f60.3b9 0S1f61.3b9 0S1f62.3b9 0S1f63.3b9 ",
  "0S1f64.3b9 0S1f65.3b9 0S1f66.3b9 0S1f67.3b9 0.1V 0S1f70.3b9 0S3b1.3b9 0S3ac.3b9 1V ",
  "0S1fb6.3b9 0.1D8 0D4a 0D1c0f 0S3b1.3b9 0S20.313 0D1c05 0S20.313 0S20.342 0S20.308.342 ",
  "0S1f74.3b9 0S3b7.3b9 0S3ae.3b9 1V 0S1fc6.3b9 0D56 0D1c1c 0D56 0D1c1d 0S3b7.3b9 0S20.313.300 ",
  "0S20.313.301 0S20.313.342 0.2V 0D1c43 2.1V 0.1D8 0D64 0D1c2c 1S20.314.300 0S20.314.301 ",
  "0S20.314.342 0.2V 0D1c33 0.3V 0.1D8 0D70 0D1c1e 0D7 0S20.308.300 0S20.308.301 0D1f8f ",
  "2S1f7c.3b9 0S3c9.3b9 0S3ce.3b9 1V 0S1ff6.3b9 0D80 0D1c2d 0D7e 0D1c2d 0S3c9.3b9 0S20.301 ",
  "0S20.314 1.aC20 0I 0.1V 2V 0D1 0.4V 0S20.333 0.bV 3V 7D200f 0.2V 0S2032.2032 ",
  "0S2032.2032.2032 0V 0S2035.2035 0S2035.2035.2035 0.3V 0S21.21 0V 0S20.305 0.7V 0S3f.3f ",
  "0S3f.21 0S21.3f 0.cV 0S2032.2032.2032.2032 0.6V 0D203f 0.4I 5.5I 0D2040 0D2008 2.5D2040 ",
  "0D204f 0U197 0D203f 0.1D2055 0D2011 0.9D2050 0D205f 0U187 0D204f 0.1D2065 1D202f 0D202c ",
  "0D2023 0D201b 0D1e3b 0D202d 0.3D202b 0D202a 0.1D2028 3.7V 0S72.73 0.18V e.20V fS61.2f.63 ",
  "0S61.2f.73 0D209f 0Sb0.63 0V 0S63.2f.6f 0S63.2f.75 0D1eac 0V 0Sb0.66 0D20a3 0.3C68 0D1fe8 ",
  "0.1C69 0.1C6c 0V 0D20a7 0S6e.6f 0.1V 0.1D20a9 0.2C72 0.1V 0S73.6d 0S74.65.6c 0S74.6d 0V ",
  "0D20aa 0V 0D1d5d 0V 0D20ae 0V 0D20bf 0D2046 0.1D20ca 0V 0.1C65 0D20cb 0U1c 0D20c6 0D20c5 ",
  "0.3D1b65 0D20d0 0V 0S66.61.78 0D1d7c 0.1C3b3 0D1d7f 0Ud1 0.3V 0.1C64 0D20e2 0.1D20df 0.5V ",
  "0S31.2044.37 0S31.2044.39 0S31.2044.31.30 0S31.2044.33 0S32.2044.33 0S31.2044.35 ",
  "0S32.2044.35 0S33.2044.35 0S34.2044.35 0S31.2044.36 0S35.2044.36 0S31.2044.38 0S33.2044.38 ",
  "0S35.2044.38 0S37.2044.38 0S31.2044 0D20f7 0S69.69 0S69.69.69 0S69.76 0D20ee 0S76.69 ",
  "0S76.69.69 0S76.69.69.69 0S69.78 0D20f1 0S78.69 0S78.69.69 0D2100 0.1D210a 0D2102 0D2107 ",
  "0S69.69 0S69.69.69 0S69.76 0D20fe 0S76.69 0S76.69.69 0S76.69.69.69 0S69.78 0D2101 0S78.69 ",
  "0S78.69.69 0D2110 0.1D211a 0D2112 0.2V 0U1 0.4V 0S30.2044.33 0.1V 4.9bV 0S222b.222b ",
  "0S222b.222b.222b 0V 0S222e.222e 0S222e.222e.222e 0.f7V 0.1Ucdf 0.feV 16.aV 15.8D242f ",
  "0S31.30 0S31.31 0S31.32 0S31.33 0S31.34 0S31.35 0S31.36 0S31.37 0S31.38 0S31.39 0S32.30 ",
  "0S28.31.29 0S28.32.29 0S28.33.29 0S28.34.29 0S28.35.29 0S28.36.29 0S28.37.29 0S28.38.29 ",
  "0S28.39.29 0S28.31.30.29 0S28.31.31.29 0S28.31.32.29 0S28.31.33.29 0S28.31.34.29 ",
  "0S28.31.35.29 0S28.31.36.29 0S28.31.37.29 0S28.31.38.29 0S28.31.39.29 0S28.32.30.29 ",
  "14S28.61.29 0S28.62.29 0S28.63.29 0S28.64.29 0S28.65.29 0S28.66.29 0S28.67.29 0S28.68.29 ",
  "0S28.69.29 0S28.6a.29 0S28.6b.29 0S28.6c.29 0S28.6d.29 0S28.6e.29 0S28.6f.29 0S28.70.29 ",
  "0S28.71.29 0S28.72.29 0S28.73.29 0S28.74.29 0S28.75.29 0S28.76.29 0S28.77.29 0S28.78.29 ",
  "0S28.79.29 0S28.7a.29 0.19D2455 0.19D246f 0D24ba 0.520V 0S222b.222b.222b.222b 0.66V ",
  "0S3a.3a.3d 0S3d.3d 0S3d.3d.3d 0.64V 0S2add.338 0.96V 2.89V 0.2fU30 0.2fV 0U1 0V 0D29f7 ",
  "0Dee6 0D29e7 0.1V 0.5A 0D2a1c 0D29fd 0D2a1f 0D2a1e 0V 0U1 0.1V 0U1 0.5V 0D2c12 0D2c07 ",
  "0.1D2a3f 0.61A 0U1 0.7V 0U1 0V 0U1 0.3V 0U1 0V 5.2cV 1V 5V 2.37V 7De 0V e.17V 9.6V 1.6V ",
  "1.6V 1.6V 1.6V 1.6V 1.6V 1.6V 1.7dV 22.19V 1.3V 0U3d2e 0.52V 0U70ac cU1f00 0U1f27 0U1f34 ",
  "0U1f3c 0U1f55 0U1f80 0U1f86 0U1f99 0U1fb2 0U2236 0U225b 0U2260 0U2276 0U2289 0U229d 0U22d1 ",
  "0U22e5 0U22ef 0U2389 0U23e6 0U2401 0U2405 0U2422 0U242a 0U2444 0U2450 0U2468 0U249b 0U24ac ",
  "0U24c6 0U27b9 0U2800 0U29cb 0U29e1 0U29e8 0U29f2 0U2a03 0U2a4e 0U2c2a 0U2c59 0U2cd0 0U2ce6 ",
  "0U2cf8 0U2d0d 0U2d42 0U2d44 0U2ead 0U2eb6 0U2ec1 0U2ecd 0U2f40 0U2f47 0U2f4b 0U2fbf 0U2fc8 ",
  "0U2fd4 0U2fdb 0U3017 0U3027 0U3038 0U3087 0U32cb 0U32f8 0U330c 0U35ef 0U35f3 0U3645 0U3654 ",
  "0U3660 0U3674 0U369a 0U369e 0U37a8 0U37bf 0U37de 0U3bd5 0U3c16 0U3c2c 0U3c65 0U3c7c 0U3c84 ",
  "0U3c8a 0U3cbd 0U3cc1 0U3ce0 0U4116 0U42d4 0U42df 0U42e3 0U42e6 0U42ed 0U42fe 0U42ff 0U434f ",
  "0U4426 0U442a 0U457c 0U4585 0U45b6 0U45bc 0U45c4 0U45cb 0U4625 0U462b 0U470e 0U4714 0U4744 ",
  "0U4754 0U4782 0U486e 0U4874 0U4884 0U49ca 0U4a47 0U4a4c 0U4b01 0U4b57 0U4b84 0U4cfd 0U4d81 ",
  "0U4fbe 0U4fd8 0U5010 0U5042 0U5085 0U508f 0U5094 0U50b4 0U50ff 0U5108 0U5261 0U5267 0U526f ",
  "0U5277 0U5286 0U5294 0U5297 0U52e5 0U52e8 0U52ed 0U56c1 0U56de 0U58b2 0U58bd 0U58d3 0U59ed ",
  "0U59f9 0U5a3f 0U5a6c 0U5ca2 0U5cb0 0U5cbe 0U5ce0 0U5d04 0U5dca 0U5dd5 0U5e17 0U5f0e 0U5f2c ",
  "0U5ffc 0U6010 0U6014 0U60ef 0U61a6 0U6222 0U6227 0U622b 0U65d0 0U65d8 0U6673 0U670c 0U670e ",
  "0U673c 0U67a4 0U67b0 0U67b3 0U67b9 0U681a 0U683b 0U6840 0U684d 0U68f3 0U6925 0U6928 0U69de ",
  "0U69e0 0U69f2 0U6aed 0U6b1c 0U6b22 0U6b67 0U6b70 0U6b72 0U6b7b 0U6b98 0U6d22 0U6eb1 0U6eba ",
  "0U6edf 0U6ef4 0U6efb 0U6f04 0U6f07 0U6f2e 0U6f31 0U6f41 0U6f45 0U6f51 0U6f6b 0U6f79 0U6f80 ",
  "0U6fba 0U6fc8 0U6fcb 2aD2fe0 0V 0D2fd4 0.32V 0D24 0V 0U2309 0.1U230b 0.4V 1.55V 2.1V ",
  "0S20.3099 0S20.309a 0.1V 0S3088.308a 0.5eV 0S30b3.30c8 5.2aV 1.1D2031 0D1f89 0D2032 ",
  "0.1D1f89 0.2D2034 0.5D1f8a 0D2026 0.2D203b 0D2023 0.9D203c 0.14D1fee 0I 0.1D2051 0.1D1fa0 ",
  "0D1f9d 0D1f9c 0D1f98 0D1f95 0D1f94 0D2052 0D1f92 0D1f91 0.1D2054 0D2053 0.1D2052 0D204f ",
  "0D204e 0.4D204d 0D204b 0D2048 0D203f 0D2039 0D2035 0.1D1f91 0.2D202d 0.1D2003 0D2001 ",
  "0.1D1ff9 0D1ff8 0D1fef 0D1fed 1.1V 0U1c6e 0U1cf9 0U1c75 0U2546 0U1c74 0U1c96 0U1c73 0U4399 ",
  "0U1cbf 0U1c7e 0U1c65 0U278c 0U2592 0U1d1b 0.45V a.fV 0S28.1100.29 0S28.1102.29 0S28.1103.29 ",
  "0S28.1105.29 0S28.1106.29 0S28.1107.29 0S28.1109.29 0S28.110b.29 0S28.110c.29 0S28.110e.29 ",
  "0S28.110f.29 0S28.1110.29 0S28.1111.29 0S28.1112.29 0S28.ac00.29 0S28.b098.29 0S28.b2e4.29 ",
  "0S28.b77c.29 0S28.b9c8.29 0S28.bc14.29 0S28.c0ac.29 0S28.c544.29 0S28.c790.29 0S28.cc28.29 ",
  "0S28.ce74.29 0S28.d0c0.29 0S28.d30c.29 0S28.d558.29 0S28.c8fc.29 0S28.c624.c804.29 ",
  "0S28.c624.d6c4.29 1S28.4e00.29 0S28.4e8c.29 0S28.4e09.29 0S28.56db.29 0S28.4e94.29 ",
  "0S28.516d.29 0S28.4e03.29 0S28.516b.29 0S28.4e5d.29 0S28.5341.29 0S28.6708.29 0S28.706b.29 ",
  "0S28.6c34.29 0S28.6728.29 0S28.91d1.29 0S28.571f.29 0S28.65e5.29 0S28.682a.29 0S28.6709.29 ",
  "0S28.793e.29 0S28.540d.29 0S28.7279.29 0S28.8ca1.29 0S28.795d.29 0S28.52b4.29 0S28.4ee3.29 ",
  "0S28.547c.29 0S28.5b66.29 0S28.76e3.29 0S28.4f01.29 0S28.8cc7.29 0S28.5354.29 0S28.796d.29 ",
  "0S28.4f11.29 0S28.81ea.29 0S28.81f3.29 0U230b 0U2c37 0U3341 0U4948 0.7V 0S70.74.65 0S32.31 ",
  "0S32.32 0S32.33 0S32.34 0S32.35 0S32.36 0S32.37 0S32.38 0S32.39 0S33.30 0S33.31 0S33.32 ",
  "0S33.33 0S33.34 0S33.35 0D2160 0.1D215f 0.2D215e 0D215d 0.1D215c 0.4D215b 0U7992 0U7e29 ",
  "0U8074 0U850b 0U8756 0U89a1 0U8e38 0U92cf 0U951a 0U99b1 0U9bfc 0U9e47 0Ua092 0Ua2dd ",
  "0Scc38.ace0 0Sc8fc.c758 0U9432 0V 0U1b80 0U1c0b 0U1b87 0U2458 0U1c10 0U1ee8 0U1b7d 0U1ee4 ",
  "0U1bd5 0U20b8 0U347e 0U3de0 0U39a8 0U349b 0U5f43 0U2490 0U3355 0U3599 0U3477 0U46ab 0U2179 ",
  "0U3fe4 0U5a0b 0U46c6 0U201c 0U473f 0U429d 0U26d8 0U5dcd 0U1e8d 0U20d2 0U3a49 0U6565 0U1c70 ",
  "0U1ef7 0U38c0 0U1b66 0U1b88 0U1b65 0U2b3f 0U214b 0U2092 0U28ed 0U28bb 0U4437 0U1c54 0U5a19 ",
  "0U20a5 0U266c 0S33.36 0S33.37 0S33.38 0S33.39 0S34.30 0S34.31 0S34.32 0S34.33 0S34.34 ",
  "0S34.35 0S34.36 0S34.37 0S34.38 0S34.39 0S35.30 0S31.6708 0S32.6708 0S33.6708 0S34.6708 ",
  "0S35.6708 0S36.6708 0S37.6708 0S38.6708 0S39.6708 0S31.30.6708 0S31.31.6708 0S31.32.6708 ",
  "0S68.67 0S65.72.67 0S65.76 0S6c.74.64 0D22e 0D22d 0D22c 0D22b 0.1D22a 0D229 0D228 0D227 ",
  "0D226 0D225 0D224 0D223 0D222 0D221 0D220 0D21f 0D21d 0D21c 0D21b 0.5D21a 0D218 0D216 0D214 ",
  "0D212 0.4D210 0D20f 0D20e 0.5D20d 0.3D20c 0S4ee4.548c 0S30a2.30d1.30fc.30c8 ",
  "0S30a2.30eb.30d5.30a1 0S30a2.30f3.30da.30a2 0S30a2.30fc.30eb 0S30a4.30cb.30f3.30b0 ",
  "0S30a4.30f3.30c1 0S30a6.30a9.30f3 0S30a8.30b9.30af.30fc.30c9 0S30a8.30fc.30ab.30fc ",
  "0S30aa.30f3.30b9 0S30aa.30fc.30e0 0S30ab.30a4.30ea 0S30ab.30e9.30c3.30c8 ",
  "0S30ab.30ed.30ea.30fc 0S30ac.30ed.30f3 0S30ac.30f3.30de 0S30ae.30ac 0S30ae.30cb.30fc ",
  "0S30ad.30e5.30ea.30fc 0S30ae.30eb.30c0.30fc 0S30ad.30ed 0S30ad.30ed.30b0.30e9.30e0 ",
  "0S30ad.30ed.30e1.30fc.30c8.30eb 0S30ad.30ed.30ef.30c3.30c8 0S30b0.30e9.30e0 ",
  "0S30b0.30e9.30e0.30c8.30f3 0S30af.30eb.30bc.30a4.30ed 0S30af.30ed.30fc.30cd ",
  "0S30b1.30fc.30b9 0S30b3.30eb.30ca 0S30b3.30fc.30dd 0S30b5.30a4.30af.30eb ",
  "0S30b5.30f3.30c1.30fc.30e0 0S30b7.30ea.30f3.30b0 0S30bb.30f3.30c1 0S30bb.30f3.30c8 ",
  "0S30c0.30fc.30b9 0S30c7.30b7 0S30c9.30eb 0S30c8.30f3 0S30ca.30ce 0S30ce.30c3.30c8 ",
  "0S30cf.30a4.30c4 0S30d1.30fc.30bb.30f3.30c8 0S30d1.30fc.30c4 0S30d0.30fc.30ec.30eb ",
  "0S30d4.30a2.30b9.30c8.30eb 0S30d4.30af.30eb 0S30d4.30b3 0S30d3.30eb ",
  "0S30d5.30a1.30e9.30c3.30c9 0S30d5.30a3.30fc.30c8 0S30d6.30c3.30b7.30a7.30eb ",
  "0S30d5.30e9.30f3 0S30d8.30af.30bf.30fc.30eb 0S30da.30bd 0S30da.30cb.30d2 0S30d8.30eb.30c4 ",
  "0S30da.30f3.30b9 0S30da.30fc.30b8 0S30d9.30fc.30bf 0S30dd.30a4.30f3.30c8 0S30dc.30eb.30c8 ",
  "0S30db.30f3 0S30dd.30f3.30c9 0S30db.30fc.30eb 0S30db.30fc.30f3 0S30de.30a4.30af.30ed ",
  "0S30de.30a4.30eb 0S30de.30c3.30cf 0S30de.30eb.30af 0S30de.30f3.30b7.30e7.30f3 ",
  "0S30df.30af.30ed.30f3 0S30df.30ea 0S30df.30ea.30d0.30fc.30eb 0S30e1.30ac ",
  "0S30e1.30ac.30c8.30f3 0S30e1.30fc.30c8.30eb 0S30e4.30fc.30c9 0S30e4.30fc.30eb ",
  "0S30e6.30a2.30f3 0S30ea.30c3.30c8.30eb 0S30ea.30e9 0S30eb.30d4.30fc 0S30eb.30fc.30d6.30eb ",
  "0S30ec.30e0 0S30ec.30f3.30c8.30b2.30f3 0S30ef.30c3.30c8 0S30.70b9 0S31.70b9 0S32.70b9 ",
  "0S33.70b9 0S34.70b9 0S35.70b9 0S36.70b9 0S37.70b9 0S38.70b9 0S39.70b9 0S31.30.70b9 ",
  "0S31.31.70b9 0S31.32.70b9 0S31.33.70b9 0S31.34.70b9 0S31.35.70b9 0S31.36.70b9 0S31.37.70b9 ",
  "0S31.38.70b9 0S31.39.70b9 0S32.30.70b9 0S32.31.70b9 0S32.32.70b9 0S32.33.70b9 0S32.34.70b9 ",
  "0S68.70.61 0S64.61 0S61.75 0S62.61.72 0S6f.76 0S70.63 0S64.6d 0S64.6d.32 0S64.6d.33 0S69.75 ",
  "0S5e73.6210 0S662d.548c 0S5927.6b63 0S660e.6cbb 0S682a.5f0f.4f1a.793e 0S70.61 0S6e.61 ",
  "0S3bc.61 0S6d.61 0S6b.61 0S6b.62 0S6d.62 0S67.62 0S63.61.6c 0S6b.63.61.6c 0S70.66 0S6e.66 ",
  "0S3bc.66 0S3bc.67 0S6d.67 0S6b.67 0S68.7a 0S6b.68.7a 0S6d.68.7a 0S67.68.7a 0S74.68.7a ",
  "0S3bc.6c 0S6d.6c 0S64.6c 0S6b.6c 0S66.6d 0S6e.6d 0S3bc.6d 0S6d.6d 0S63.6d 0S6b.6d ",
  "0S6d.6d.32 0S63.6d.32 0S6d.32 0S6b.6d.32 0S6d.6d.33 0S63.6d.33 0S6d.33 0S6b.6d.33 ",
  "0S6d.2215.73 0S6d.2215.73.32 0S70.61 0S6b.70.61 0S6d.70.61 0S67.70.61 0S72.61.64 ",
  "0S72.61.64.2215.73 0S72.61.64.2215.73.32 0S70.73 0S6e.73 0S3bc.73 0S6d.73 0S70.76 0S6e.76 ",
  "0S3bc.76 0S6d.76 0S6b.76 0S6d.76 0S70.77 0S6e.77 0S3bc.77 0S6d.77 0S6b.77 0S6d.77 0S6b.3c9 ",
  "0S6d.3c9 1S62.71 0S63.63 0S63.64 0S63.2215.6b.67 1S64.62 0S67.79 0S68.61 0S68.70 0S69.6e ",
  "0S6b.6b 0S6b.6d 0S6b.74 0S6c.6d 0S6c.6e 0S6c.6f.67 0S6c.78 0S6d.62 0S6d.69.6c 0S6d.6f.6c ",
  "0S70.68 1S70.70.6d 0S70.72 0S73.72 0S73.76 0S77.62 0S76.2215.6d 0S61.2215.6d 0S31.65e5 ",
  "0S32.65e5 0S33.65e5 0S34.65e5 0S35.65e5 0S36.65e5 0S37.65e5 0S38.65e5 0S39.65e5 ",
  "0S31.30.65e5 0S31.31.65e5 0S31.32.65e5 0S31.33.65e5 0S31.34.65e5 0S31.35.65e5 0S31.36.65e5 ",
  "0S31.37.65e5 0S31.38.65e5 0S31.39.65e5 0S32.30.65e5 0S32.31.65e5 0S32.32.65e5 0S32.33.65e5 ",
  "0S32.34.65e5 0S32.35.65e5 0S32.36.65e5 0S32.37.65e5 0S32.38.65e5 0S32.39.65e5 0S33.30.65e5 ",
  "0S33.31.65e5 0S67.61.6c 0.708cV 3.36V 9.15bV 14.2bA 0U1 0.12V 0.1bA 0Da252 0Da251 0.59V ",
  "8.21V 0.bA 0U1 0.2V 0.3dA 0D1 0.7V 0.3A 0D8a04 0.7A 0U1 0.3V 0U1 0V 0Da528 0.1V 0U1 0V 0U1 ",
  "0.2V 0.13A 0Da544 0Da54f 0Da54b 0Da541 0Da544 0V 0Da512 0Da52a 0Da515 0U3a0 0.fA 0D30 ",
  "0Da543 0D8a38 0.3A 0Da567 0.fA 0Da641 14Da77e 0Da78f 0Da78d 0Da783 0U1 0.1V 0Da6d1 0Da6a6 ",
  "0.32V 3.9V 6.37V 8.45V 8.bV 6.73V b.1dV 3.4dV 1.aV 4.20V 1.36V 9.dV 2.9V 2.66V 18.1bV a.5V ",
  "2.5V 2.5V 9.6V 1.6V 1.2bV 0D435 0D26 0Da8f3 0Dd 0.8V 0Da8dc 0.1V 4.4fD97d0 0.2dV 2.9V ",
  "6.2ba3V c.16V 4.30V 2104D6cb8 0D920d 0D6a38 0D6c3b 0D8a33 0Daad3 0Da521 0.1C9f9c 0D9fb8 ",
  "0D6739 0Da384 0D9fc4 0D9717 0D82a5 0D798a 0D72d1 0D7157 0D701a 0D6884 0D8f12 0D8bfa 0D883d ",
  "0D8539 0D74db 0D67af 0D5f29 0Daa99 0Da5a7 0D8e19 0D8703 0D72f2 0D5b02 0D9bd1 0D8937 0D7356 ",
  "0D6fc0 0D965c 0D774e 0D7108 0D9a5e 0D9212 0D8bc0 0D862f 0D685e 0Da9a7 0Da777 0Da651 0D946c ",
  "0D8e5e 0D8722 0D824c 0D7933 0D732f 0D72da 0D6b48 0D6206 0D5dca 0D5b40 0D80af 0D7fbd 0D7b9d ",
  "0D7575 0D663b 0D5ac1 0D6e6b 0Da063 0D9a3f 0D7ce4 0D78c7 0D86e4 0D807d 0D6c86 0D6252 0Da072 ",
  "0D9ce9 0D8f39 0D8b73 0D8a3f 0D7c20 0D7b19 0D6306 0Da680 0D78c8 0Da778 0Da789 0D7f3a 0D7b99 ",
  "0D7567 0D62e4 0D6dda 0D968c 0D8f5a 0D6e5f 0Dab25 0D9d78 0D994e 0D85da 0D83f2 0Da64c 0D8069 ",
  "0Da9a6 0D99bd 0Dab5a 0D8c9c 0D93f1 0D7c48 0Da5a8 0Da10e 0D826c 0D7525 0D6ec5 0D8db6 0D69c1 ",
  "0D8cea 0D9675 0D768f 0D95d5 0D8411 0Daac9 0Da80f 0Da7b0 0D90f9 0D7c94 0D770d 0D6eab 0D67af ",
  "0Da68a 0Da53e 0Da00e 0D9a96 0D93be 0D8986 0D805b 0D63d9 0D5f1d 0D5af1 0D5abb 0Da6ef 0D92c5 ",
  "0D8e15 0D6a2b 0D9b1a 0D97ff 0D9790 0D94f7 0D8a6f 0D884a 0D850b 0D7fcb 0D7ba2 0D7928 0D6a72 ",
  "0D74ab 0D6977 0D6651 0Da785 0Da6fa 0Da4e1 0D88d7 0D70de 0D6ef7 0D9ad9 0D99ae 0D9629 0D8df7 ",
  "0D7d68 0D8632 0Daac4 0Da2b0 0D9dc3 0D9bf1 0D9990 0D85fb 0D8545 0D7a15 0D796a 0D677d 0D62bc ",
  "0D626b 0D619c 0Daa2a 0D8008 0D6803 0D6300 0D98d8 0Dab34 0Da8e1 0D9dce 0D9d7e 0D9425 0D8fbd ",
  "0D87f2 0D837f 0D74c6 0D6947 0D5a37 0D933d 0D6398 0Da73e 0D924d 0D91d6 0D8c89 0D8b2f 0D85c3 ",
  "0D8474 0D8163 0D7cbf 0D6172 0Da864 0D97a4 0D635b 0Da9a9 0D9cbc 0D8bec 0D6aad 0D9a4d 0D9895 ",
  "0D91c3 0D8654 0D6356 0Da7b4 0Da5cf 0D9d7a 0D93cd 0D9293 0D913a 0D8cfe 0D85de 0D8403 0D7a6d ",
  "0D7118 0D7107 0D681d 0D6308 0Da6ac 0D8b32 0Da5d0 0D881e 0D8557 0D73f6 0D634e 0D5d9b 0D5b54 ",
  "0D925d 0D8c2a 0D780e 0D7f2c 0D7ed8 0D7d67 0D873a 0D8962 0D6ea4 0Dab3d 0D76c8 0Da7c5 0Da7f9 ",
  "0D9b5b 0D972f 0D7d2d 0D9e7f 0D8ce7 0D9352 0D6acc 0D71bc 0D63bc 0D707f 0D9b38 0Da8cc 0Da44d ",
  "0.1V 0Da1b6 0V 0D939e 0.1V 0Da837 0D86ec 0D834d 0D80dc 0D80bb 0D80b5 0D808c 0D62c6 0D7d5f ",
  "0D7a61 0V 0D740e 0V 0D6f2a 0.1V 0D69ed 0D6929 0.2V 0D613b 0D612f 0D6104 0D5c79 0D6950 ",
  "0D6378 0Daa82 0Da94a 0Da8e5 0Da76a 0Da750 0Da6e4 0Da499 0Da431 0Da3d0 0Da1f9 0Da192 0D9dd7 ",
  "0D9dce 0D99a9 0D98d6 0D98b1 0D984e 0D94f2 0D9460 0D93b2 0D91bf 0D8cce 0D8c2c 0D8b25 0D88da ",
  "0D881e 0D8628 0D81ba 0D810e 0D8104 0D8106 0D80ff 0D80fa 0D80f4 0.1D80c5 0D8014 0D7fd4 ",
  "0D7e96 0D7c63 0D7c4f 0D7c18 0D7ae8 0D7a56 0D786f 0.1C8279 0D7608 0D7150 0D70cb 0D6f61 ",
  "0D6f2a 0D6d91 0D6d5d 0D6ab0 0D6a2f 0D6385 0D626a 0D622f 0D99f6 0U14882 0D7855 2Dac4a 0Da8bc ",
  "0Da90a 0Daaf3 0Da92f 0Da8f5 0Da7af 0Da77d 0Da4db 0Da524 0Da4e1 0Da499 0Da222 0Da1ca 0Da13a ",
  "0Da12b 0Da01e 0D9f59 0D9bb0 0D9baa 0D9b1b 0D9ad8 0D99ae 0D9939 0D9980 0D98fb 0D992a 0D9899 ",
  "0D9858 0D96c9 0D9672 0D963d 0D953a 0D941d 0D937b 0D9378 0D933e 0D8f1c 0D8edc 0D8d56 0D8bbd ",
  "0D8bce 0D8b78 0D8a7d 0D892e 0D82f6 0D8869 0D87f0 0D8776 0D8630 0D859c 0D8568 0D8487 0D8486 ",
  "0D83dc 0D83cc 0D83b4 0D835f 0D836a 0D81df 0D7ffb 0D7eed 0D7e33 0D7d54 0D7cbc 0D7b73 0D7aad ",
  "0D7761 0D76c5 0D733c 0D7175 0D7131 0D7122 0D6ffa 0D6fc2 0D6ff0 0D6fbb 0D6fbf 0D6fd1 0D6f86 ",
  "0D6f36 0D6db9 0D6b8a 0D6a51 0D692b 0D684f 0D644a 0D63e4 0D6372 0D62ee 0D62cb 0D62c0 0D6291 ",
  "0D5fbb 0D5b32 0U12d7b 0U12d74 0U13904 0Dbf35 0Dbabb 0Dba9b 0U15774 0U161fa 0U183fc 0D5b95 ",
  "0D5b4b 26S66.66 0S66.69 0S66.6c 0S66.66.69 0S66.66.6c 0.1S73.74 cS574.576 0S574.565 ",
  "0S574.56b 0S57e.576 0S574.56d 5S5d9.5b4 0V 0S5f2.5b7 0Df53e 0Df551 0.1Df54f 0.2Df549 0Df53f ",
  "0Df53e 0Dfafe 0S5e9.5c1 0S5e9.5c2 0S5e9.5bc.5c1 0S5e9.5bc.5c2 0S5d0.5b7 0S5d0.5b8 0S5d0.5bc ",
  "0S5d1.5bc 0S5d2.5bc 0S5d3.5bc 0S5d4.5bc 0S5d5.5bc 0S5d6.5bc 1S5d8.5bc 0S5d9.5bc 0S5da.5bc ",
  "0S5db.5bc 0S5dc.5bc 1S5de.5bc 1S5e0.5bc 0S5e1.5bc 1S5e3.5bc 0S5e4.5bc 1S5e6.5bc 0S5e7.5bc ",
  "0S5e8.5bc 0S5e9.5bc 0S5ea.5bc 0S5d5.5b9 0S5d1.5bf 0S5db.5bf 0S5e4.5bf 0S5d0.5dc 0.1C671 ",
  "0.3C67b 0.3C67e 0.3C680 0.3C67a 0.3C67f 0.3C679 0.3C6a4 0.3C6a6 0.3C684 0.3C683 0.3C686 ",
  "0.3C687 0.1C68d 0.1C68c 0.1C68e 0.1C688 0.1C698 0.1C691 0.3C6a9 0.3C6af 0.3C6b3 0.3C6b1 ",
  "0.1C6ba 0.3C6bb 0.1C6c0 0.3C6c1 0.3C6be 0.1C6d2 0.1C6d3 0.20V 0.3C6ad 0.1C6c7 0.1C6c6 ",
  "0.1C6c8 0S6c7.674 0.1C6cb 0.1C6c5 0.1C6c9 0.3C6d0 0.1C649 0.1S626.627 0.1S626.6d5 ",
  "0.1S626.648 0.1S626.6c7 0.1S626.6c6 0.1S626.6c8 0.2S626.6d0 0.2S626.649 0.3C6cc 0S626.62c ",
  "0S626.62d 0S626.645 0S626.649 0S626.64a 0S628.62c 0S628.62d 0S628.62e 0S628.645 0S628.649 ",
  "0S628.64a 0S62a.62c 0S62a.62d 0S62a.62e 0S62a.645 0S62a.649 0S62a.64a 0S62b.62c 0S62b.645 ",
  "0S62b.649 0S62b.64a 0S62c.62d 0S62c.645 0S62d.62c 0S62d.645 0S62e.62c 0S62e.62d 0S62e.645 ",
  "0S633.62c 0S633.62d 0S633.62e 0S633.645 0S635.62d 0S635.645 0S636.62c 0S636.62d 0S636.62e ",
  "0S636.645 0S637.62d 0S637.645 0S638.645 0S639.62c 0S639.645 0S63a.62c 0S63a.645 0S641.62c ",
  "0S641.62d 0S641.62e 0S641.645 0S641.649 0S641.64a 0S642.62d 0S642.645 0S642.649 0S642.64a ",
  "0S643.627 0S643.62c 0S643.62d 0S643.62e 0S643.644 0S643.645 0S643.649 0S643.64a 0S644.62c ",
  "0S644.62d 0S644.62e 0S644.645 0S644.649 0S644.64a 0S645.62c 0S645.62d 0S645.62e 0S645.645 ",
  "0S645.649 0S645.64a 0S646.62c 0S646.62d 0S646.62e 0S646.645 0S646.649 0S646.64a 0S647.62c ",
  "0S647.645 0S647.649 0S647.64a 0S64a.62c 0S64a.62d 0S64a.62e 0S64a.645 0S64a.649 0S64a.64a ",
  "0S630.670 0S631.670 0S649.670 0S20.64c.651 0S20.64d.651 0S20.64e.651 0S20.64f.651 ",
  "0S20.650.651 0S20.651.670 0S626.631 0S626.632 0S626.645 0S626.646 0S626.649 0S626.64a ",
  "0S628.631 0S628.632 0S628.645 0S628.646 0S628.649 0S628.64a 0S62a.631 0S62a.632 0S62a.645 ",
  "0S62a.646 0S62a.649 0S62a.64a 0S62b.631 0S62b.632 0S62b.645 0S62b.646 0S62b.649 0S62b.64a ",
  "0S641.649 0S641.64a 0S642.649 0S642.64a 0S643.627 0S643.644 0S643.645 0S643.649 0S643.64a ",
  "0S644.645 0S644.649 0S644.64a 0S645.627 0S645.645 0S646.631 0S646.632 0S646.645 0S646.646 ",
  "0S646.649 0S646.64a 0S649.670 0S64a.631 0S64a.632 0S64a.645 0S64a.646 0S64a.649 0S64a.64a ",
  "0S626.62c 0S626.62d 0S626.62e 0S626.645 0S626.647 0S628.62c 0S628.62d 0S628.62e 0S628.645 ",
  "0S628.647 0S62a.62c 0S62a.62d 0S62a.62e 0S62a.645 0S62a.647 0S62b.645 0S62c.62d 0S62c.645 ",
  "0S62d.62c 0S62d.645 0S62e.62c 0S62e.645 0S633.62c 0S633.62d 0S633.62e 0S633.645 0S635.62d ",
  "0S635.62e 0S635.645 0S636.62c 0S636.62d 0S636.62e 0S636.645 0S637.62d 0S638.645 0S639.62c ",
  "0S639.645 0S63a.62c 0S63a.645 0S641.62c 0S641.62d 0S641.62e 0S641.645 0S642.62d 0S642.645 ",
  "0S643.62c 0S643.62d 0S643.62e 0S643.644 0S643.645 0S644.62c 0S644.62d 0S644.62e 0S644.645 ",
  "0S644.647 0S645.62c 0S645.62d 0S645.62e 0S645.645 0S646.62c 0S646.62d 0S646.62e 0S646.645 ",
  "0S646.647 0S647.62c 0S647.645 0S647.670 0S64a.62c 0S64a.62d 0S64a.62e 0S64a.645 0S64a.647 ",
  "0S626.645 0S626.647 0S628.645 0S628.647 0S62a.645 0S62a.647 0S62b.645 0S62b.647 0S633.645 ",
  "0S633.647 0S634.645 0S634.647 0S643.644 0S643.645 0S644.645 0S646.645 0S646.647 0S64a.645 ",
  "0S64a.647 0S640.64e.651 0S640.64f.651 0S640.650.651 0S637.649 0S637.64a 0S639.649 0S639.64a ",
  "0S63a.649 0S63a.64a 0S633.649 0S633.64a 0S634.649 0S634.64a 0S62d.649 0S62d.64a 0S62c.649 ",
  "0S62c.64a 0S62e.649 0S62e.64a 0S635.649 0S635.64a 0S636.649 0S636.64a 0S634.62c 0S634.62d ",
  "0S634.62e 0S634.645 0S634.631 0S633.631 0S635.631 0S636.631 0S637.649 0S637.64a 0S639.649 ",
  "0S639.64a 0S63a.649 0S63a.64a 0S633.649 0S633.64a 0S634.649 0S634.64a 0S62d.649 0S62d.64a ",
  "0S62c.649 0S62c.64a 0S62e.649 0S62e.64a 0S635.649 0S635.64a 0S636.649 0S636.64a 0S634.62c ",
  "0S634.62d 0S634.62e 0S634.645 0S634.631 0S633.631 0S635.631 0S636.631 0S634.62c 0S634.62d ",
  "0S634.62e 0S634.645 0S633.647 0S634.647 0S637.645 0S633.62c 0S633.62d 0S633.62e 0S634.62c ",
  "0S634.62d 0S634.62e 0S637.645 0S638.645 0.1S627.64b 0.11V 0S62a.62c.645 0.1S62a.62d.62c ",
  "0S62a.62d.645 0S62a.62e.645 0S62a.645.62c 0S62a.645.62d 0S62a.645.62e 0.1S62c.645.62d ",
  "0S62d.645.64a 0S62d.645.649 0S633.62d.62c 0S633.62c.62d 0S633.62c.649 0.1S633.645.62d ",
  "0S633.645.62c 0.1S633.645.645 0.1S635.62d.62d 0S635.645.645 0.1S634.62d.645 0S634.62c.64a ",
  "0.1S634.645.62e 0.1S634.645.645 0S636.62d.649 0.1S636.62e.645 0.1S637.645.62d 0S637.645.645 ",
  "0S637.645.64a 0S639.62c.645 0.1S639.645.645 0S639.645.649 0S63a.645.645 0S63a.645.64a ",
  "0S63a.645.649 0.1S641.62e.645 0S642.645.62d 0S642.645.645 0S644.62d.645 0S644.62d.64a ",
  "0S644.62d.649 0.1S644.62c.62c 0.1S644.62e.645 0.1S644.645.62d 0S645.62d.62c 0S645.62d.645 ",
  "0S645.62d.64a 0S645.62c.62d 0S645.62c.645 0S645.62e.62c 0S645.62e.645 0.1V 0S645.62c.62e ",
  "0S647.645.62c 0S647.645.645 0S646.62d.645 0S646.62d.649 0.1S646.62c.645 0S646.62c.649 ",
  "0S646.645.64a 0S646.645.649 0.1S64a.645.645 0S628.62e.64a 0S62a.62c.64a 0S62a.62c.649 ",
  "0S62a.62e.64a 0S62a.62e.649 0S62a.645.64a 0S62a.645.649 0S62c.645.64a 0S62c.62d.649 ",
  "0S62c.645.649 0S633.62e.649 0S635.62d.64a 0S634.62d.64a 0S636.62d.64a 0S644.62c.64a ",
  "0S644.645.64a 0S64a.62d.64a 0S64a.62c.64a 0S64a.645.64a 0S645.645.64a 0S642.645.64a ",
  "0S646.62d.64a 0S642.645.62d 0S644.62d.645 0S639.645.64a 0S643.645.64a 0S646.62c.62d ",
  "0S645.62e.64a 0S644.62c.645 0S643.645.645 0S644.62c.645 0S646.62c.62d 0S62c.62d.64a ",
  "0S62d.62c.64a 0S645.62c.64a 0S641.645.64a 0S628.62d.64a 0S643.645.645 0S639.62c.645 ",
  "0S635.645.645 0S633.62e.64a 0S646.62c.64a 0.7V 20S635.644.6d2 0S642.644.6d2 ",
  "0S627.644.644.647 0S627.643.628.631 0S645.62d.645.62f 0S635.644.639.645 0S631.633.648.644 ",
  "0S639.644.64a.647 0S648.633.644.645 0S635.644.649 ",
  "0S635.644.649.20.627.644.644.647.20.639.644.64a.647.20.648.633.644.645 ",
  "0S62c.644.20.62c.644.627.644.647 0S631.6cc.627.644 0.2V 0.fI 0Dfde4 0Dce10 1.1Dfdd9 0Dfdf4 ",
  "0Dfdd7 0.1Dce01 7.fV 1Dde1d 0Dde1f 0.1C5f 0.1Dfe0d 0Dfdbc 0Dfdbb 0.1Dce25 0.1Dce2b 0.1Dce33 ",
  "0.1Dce37 0.3Dce35 0.1V 0Dfdec 0Dfdeb 0.3S20.305 0.2C5f 0Dfe24 0Dce50 2Dfe19 0Dfe1b 0Dfe17 ",
  "0Dfe36 0Dde44 0.1Dfe31 0Dfde0 0Dfddf 0.1Dce49 0Dfe3c 0Dfe3a 0.1Dfe37 0Dfe36 0Dfe28 0Dfe27 ",
  "0Dfe29 1Dfe0c 0.1Dfe45 0Dfe2b 4S20.64b 0S640.64b 0S20.64c 0V 0S20.64d 1S20.64e 0S640.64e ",
  "0S20.64f 0S640.64f 0S20.650 0S640.650 0S20.651 0S640.651 0S20.652 0S640.652 0Df85f 0.1C622 ",
  "0.1C623 0.1C624 0.1C625 0.3C626 0.1C627 0.3C628 0.1C629 0.3C62a 0.3C62b 0.3C62c 0.3C62d ",
  "0.3C62e 0.1C62f 0.1C630 0.1C631 0.1C632 0.3C633 0.3C634 0.3C635 0.3C636 0.3C637 0.3C638 ",
  "0.3C639 0.3C63a 0.3C641 0.3C642 0.3C643 0.3C644 0.3C645 0.3C646 0.3C647 0.1C648 0.1C649 ",
  "0.3C64a 0.1S644.622 0.1S644.623 0.1S644.625 0.1S644.627 2I 1.1fDfee0 0.19Dfec0 0.23Dfee0 ",
  "0.1Dd5da 0Dff33 0.1Dcf56 0Dcf63 0Dce6a 0Dce74 0Dcec6 0Dcec5 0Dcec4 0Dcec3 0Dcec2 0Dce89 ",
  "0Dce88 0Dce87 0Dceac 0Dce74 0Dcecf 0Dcece 0Dcecd 0Dcecc 0.1Dcecb 0Dceca 0Dcec9 0Dcec8 ",
  "0Dcec7 0Dcec6 0Dcec5 0Dcec4 0Dcec3 0Dcec2 0Dcec1 0Dcec0 0Dcebe 0Dcebd 0Dcebc 0.5Dcebb ",
  "0Dceb9 0Dceb7 0Dceb5 0Dceb3 0.4Dceb1 0Dceb0 0Dceaf 0.5Dceae 0Dcead 0Dceaa 0.1Dcf05 0I ",
  "0.1Deea1 0Dedf9 0Deea2 0.1Dedf9 0.2Deea4 0.5Dedfa 0Dee96 0.2Deeab 0Dee93 0.9Deeac 3.5Dee61 ",
  "2.5Dee63 2.5Dee65 2.2Dee67 3.1Dff3e 0Dff36 0S20.304 0Dff3e 0Dff40 0Ddf3d 1Ddae6 0.3Dde59 ",
  "0Dda4d 0Dda23 11.bV 1.19V 1.12V 1.1V 1.eV 2.dV 22.7aV 5.2V 4.2cV 3.57V 1.cV 3V 2f.2dV ",
  "82.1cV 3.30V f.1bV 4.23V 9.1dV 5.2aV 5.1dV 1.24V 4.dV 2a.27U28 0.75V 2.9V 6.23U28 4.23V ",
  "4.27V 8.33V bV 0.aU27 1.eU27 1.6U27 1.1U27 1.aV 1.eV 1.6V 1.1V 3.33V c.136V 9.15V a.7V 18V ",
  "0.1D104b1 0D1069d 0D104eb 0D10532 1D104e4 0D5c22 0D104e4 0D104e6 0.1D10535 0De9fc 0D10536 ",
  "0D10531 0D104e7 0D1052d 0D10530 0D10533 0D104f9 0D1066e 0D104fa 0D10530 0D10514 0.1D104ef ",
  "0D1052f 0Ud768 0D600f 0D10530 0Ud766 0D10512 0Ud765 0D106aa 0.1D1052d 0D10734 0D1052c ",
  "0Ud761 0.1D1052b 0D1052a 0D10503 0D10506 0D5c46 0D10507 0D10527 0Ddb3f 1D10523 0.1D10512 ",
  "0D1051d 0.2D105f6 0Ud751 0Ud764 45.5V 2V 1.2bV 1.1V 3V 2.16V 1.47V 8.8V 30.12V 1.1V 5.20V ",
  "3.1aV 5.1aV 26.37V 4.13V 2.31V 1.1V 5.7V 1.2V 1.1cV 2.2V 4.9V 7.8V 7.3fV 20.26V 4.bV 9.35V ",
  "3.1cV 2.1aV 5.19V 7.3V c.6V 50.48V 37.32U40 d.32V 7.2dV 8.9V 6.fV 0.15U20 3.1cV 8.1V d0.1eV ",
  "1.29V 1.2V 2.1V 10.5V 8.8V 21.2dV 8.29V 16.19V 26.1bV 14.16V 9.4dV 4.23V 9.3dV 1.4V d.18V ",
  "7.9V 6.34V 1.11V 8.26V 9.5fV 1.13V b.11V 1.2eV 3e.6V 1V 1.3V 1.eV 1.aV 6.3aV 5.9V 6.3V 1.7V ",
  "2.1V 2.15V 1.6V 1.1V 1.4V 1.9V 2.1V 2.2V 2V 6V 5.6V 2.6V 3.4V b.9V 1V 2V 1.25V 1.9V 1V 2V ",
  "1.3V 1.9V 1.1V 8.1V 1d.5bV 1.4V 1e.47V 8.9V a6.35V 2.25V 22.44V b.9V 6.cV 13.39V 6.9V 6.13V ",
  "1c.1aV 2.eV 4.16V b9.3bV 64.1fU20 0.32V c.7V 2V 2.7V 1.1V 1.1dV 1.1V 2.bV 9.9V 46.7V 2.2dV ",
  "2.aV 1b.47V 8.52V d.48V 7.9V 56.7V 58.21V e.9V 6.8V 1.2cV 1.dV a.1cV 3.1fV 2.15V 1.dV 49.6V ",
  "1.1V 1.2bV 3V 1.1V 1.8V 8.9V 6.5V 1.1V 1.24V 1.1V 1.5V 7.9V 6.2bV 4.9V f6.18V 7.10V 1.28V ",
  "3.1cV 55V f.31V d.39aV 66.6eV 1.4V b.c3V a4c.62V d.42fV 10.15V a.f9aV 5.246V 1ab9.39V ",
  "6c6.238V 7.1eV 1.9V 4.50V 1.9V 6.1dV 2.5V a.45V a.9V 1.6V 1.14V 5.12V 1b0.39V c6.1fU20 ",
  "0.3aV 5.18U1b 2.18V 2c.4aV 4.38V 7.10V 40.4V b.6V 9.1cd5V 29.1fV 61.72V 21fd.3V 1.6V 1.1V ",
  "1.122V fV 1d.2V 2V e.3V 8.18bV 904.6aV 5.cV 3.8V 7.9V 2.3V 0.3I f5c.d5V 0.19D1cc75 ",
  "0.9D1ccc0 0.2V 3.1b3V 6.16V f.10V f.2dV 2.16V 9.73V 3c.f5V a.26V 2.34V 0S1d157.1d165 ",
  "0S1d158.1d165 0S1d158.1d165.1d16e 0S1d158.1d165.1d16f 0S1d158.1d165.1d170 ",
  "0S1d158.1d165.1d171 0S1d158.1d165.1d172 0.dV 0.7I 0.3fV 0S1d1b9.1d165 0S1d1ba.1d165 ",
  "0S1d1b9.1d165.1d16e 0S1d1ba.1d165.1d16e 0S1d1b9.1d165.1d16f 0S1d1ba.1d165.1d16f 0.29V ",
  "15.45V 7a.13V c.13V c.56V 9.18V 87.19D1d39f 0.19D1d3b9 0.19D1d3d3 0.6D1d3ed 1.11D1d3ed ",
  "0.19D1d407 0.19D1d421 0D1d43b 1.1D1d43b 2D1d43b 2.1D1d43b 2.3D1d43b 1.7D1d43b 0.3D1d455 ",
  "1D1d455 1.6D1d455 1.aD1d455 0.19D1d46f 0.19D1d489 0.1D1d4a3 1.3D1d4a3 2.7D1d4a3 1.6D1d4a3 ",
  "1.19D1d4bd 0.1D1d4d7 1.3D1d4d7 1.4D1d4d7 1D1d4d7 3.6D1d4d7 1.19D1d4f1 0.19D1d50b 0.19D1d525 ",
  "0.19D1d53f 0.19D1d559 0.19D1d573 0.19D1d58d 0.19D1d5a7 0.19D1d5c1 0.19D1d5db 0.19D1d5f5 ",
  "0.19D1d60f 0.19D1d629 0D1d573 0D1d46e 2.10D1d2f7 0D1d301 0.6D1d2f7 0D1b4ba 0.10D1d311 ",
  "0.1C3c3 0.5D1d311 0D1b4d9 0D1d327 0D1d325 0D1d324 0D1d319 0D1d31f 0D1d321 0.10D1d331 ",
  "0D1d33b 0.6D1d331 0D1b4f4 0.10D1d34b 0.1C3c3 0.5D1d34b 0D1b513 0D1d361 0D1d35f 0D1d35e ",
  "0D1d353 0D1d359 0D1d35b 0.10D1d36b 0D1d375 0.6D1d36b 0D1b52e 0.10D1d385 0.1C3c3 0.5D1d385 ",
  "0D1b54d 0D1d39b 0D1d399 0D1d398 0D1d38d 0D1d393 0D1d395 0.10D1d3a5 0D1d3af 0.6D1d3a5 ",
  "0D1b568 0.10D1d3bf 0.1C3c3 0.5D1d3bf 0D1b587 0D1d3d5 0D1d3d3 0D1d3d2 0D1d3c7 0D1d3cd ",
  "0D1d3cf 0.10D1d3df 0D1d3e9 0.6D1d3df 0D1b5a2 0.10D1d3f9 0.1C3c3 0.5D1d3f9 0D1b5c1 0D1d40f ",
  "0D1d40d 0D1d40c 0D1d401 0D1d407 0D1d409 0.1C3dd 2.9D1d79e 0.9D1d7a8 0.9D1d7b2 0.9D1d7bc ",
  "0.9D1d7c6 0.28bV f.4V 1.eV 450.1eV 6.5V d5.6V 1.10V 2.6V 1.1V 1.4V 5.8D1dc00 0.2D1dbff ",
  "0.aD1dbfe 0D1dbfc 0.1D1dbfb 0D139c1 0D1db72 0D1dbf6 0D1dbf5 0D1db65 0D1dba0 0D1db81 ",
  "0.8D1dc21 0.1D1dc20 0.1D1dc1e 0D1dc1d 0.5D1dc1c 0.1D1dc1b 0D1dbd6 0D1dc12 0D1dc14 0D1dc0b ",
  "0D1dbc0 0D13a1b 0D1dbbc 21V 70.2cV 3.dV 2.9V 4.1V 140.1eV 11.39V 5V 1d0.29V d6.2aV 4V ",
  "c0.1eV 1.15V 8.1V e0.6V 1.3V 1.1V 1.eV 1.c4V 2.fV 29.21U22 0.29V 4.9V 4.1V 311.43V 4c.3cV ",
  "c2.1D1e7d9 0D1e7d6 0D1e7d4 1D1e7bd 0D1e7d4 0D1e7da 0D1e7d1 0D1e7bf 0.3D1e7c7 0D1e7db ",
  "0D1e7d6 0D1e7cf 0D1e7dc 0D1e7d0 0D1e7e2 0D1e7e0 0.1D1e7eb 0D1e7e9 0D1e7e8 0D1e7e3 0D1e7e2 ",
  "0D1e7e1 0D1e7ae 0D1e763 0D1e77d 0D1e7b0 1D1e7f9 0D1e7f6 1D1e7dd 2D1e7fa 1D1e7df 0.3D1e7e7 ",
  "0D1e7fb 0D1e7f6 0D1e7ef 0D1e7fc 0D1e7f0 1D1e800 0.1D1e80b 0D1e809 1D1e803 1D1e801 6D1e816 ",
  "4D1e81a 1D1e7ff 1D1e807 1D1e807 0D1e81b 0D1e816 1D1e81c 0D1e810 1D1e820 2D1e829 1D1e823 ",
  "1D1e821 1D1e7a3 1D1e7f0 1D1e839 0D1e836 1D1e81d 2D1e83a 0D1e831 0D1e81f 0D1e827 1.1D1e827 ",
  "0D1e83b 0D1e836 0D1e82f 0D1e83c 0D1e830 1D1e840 0.1D1e84b 0D1e849 1D1e843 0D1e842 0D1e841 ",
  "0D1e80e 1D1e7dd 1.1D1e859 0D1e856 0D1e854 0.1D1e83d 0D1e854 0D1e85a 0D1e851 0D1e83f ",
  "1.2D1e847 0D1e85b 0D1e856 0D1e84f 0D1e85c 0D1e850 0D1e862 0D1e860 0.1D1e86b 0D1e869 0D1e868 ",
  "0D1e863 0D1e862 0D1e861 5D1e879 0D1e876 0D1e874 1D1e85d 0D1e874 0D1e87a 0D1e871 0D1e85f ",
  "1.2D1e867 0D1e87b 0D1e876 0D1e86f 0D1e87c 0D1e870 0D1e882 0D1e880 0.1D1e88b 0D1e889 0D1e888 ",
  "0D1e883 0D1e882 0D1e881 34.1V 10e.2bV 4.63V c.eV 2.eV 1.eV 1.24V bS30.2c 0S31.2c 0S32.2c ",
  "0S33.2c 0S34.2c 0S35.2c 0S36.2c 0S37.2c 0S38.2c 0S39.2c 0.4V 0S28.61.29 0S28.62.29 ",
  "0S28.63.29 0S28.64.29 0S28.65.29 0S28.66.29 0S28.67.29 0S28.68.29 0S28.69.29 0S28.6a.29 ",
  "0S28.6b.29 0S28.6c.29 0S28.6d.29 0S28.6e.29 0S28.6f.29 0S28.70.29 0S28.71.29 0S28.72.29 ",
  "0S28.73.29 0S28.74.29 0S28.75.29 0S28.76.29 0S28.77.29 0S28.78.29 0S28.79.29 0S28.7a.29 ",
  "0S3014.73.3015 0D1f0c8 0D1f0ba 0S63.64 0S77.7a 0V 0.19D1f0cf 0S68.76 0S6d.76 0S73.64 ",
  "0S73.73 0S70.70.76 0S77.63 0.19V 0S6d.63 0S6d.64 0S6d.72 0.22V 0S64.6a 0.1cV 38.19V ",
  "0S307b.304b 0S30b3.30b3 0D1c14d dD18fc5 0D196ba 0D19e46 0D1c14c 0D1a388 0D198fb 0D16833 ",
  "0D198ee 0D1a374 0D18bf9 0D180f9 0D18c82 0D19fcf 0D19291 0D1a091 0D18c6f 0D1a003 0D174df ",
  "0D17d03 0D1657a 0D19934 0D19dec 0D18312 0D18f92 0D18ed3 0D1a429 0D1a421 0D161e1 0D19446 ",
  "0D1a400 0D19e3b 0D18f28 0D164c0 0D18fde 0D178b1 0D177b9 0D19e2c 0D183b5 0D18b2d 0D18b2f ",
  "0D17d05 0D19fc7 0D19c84 0D160ee 4S3014.672c.3015 0S3014.4e09.3015 0S3014.4e8c.3015 ",
  "0S3014.5b89.3015 0S3014.70b9.3015 0S3014.6253.3015 0S3014.76d7.3015 0S3014.52dd.3015 ",
  "0S3014.6557.3015 7D192b9 0D19e62 e.5V 9a.3d8V 3.10V 3.cV 3.d9V 6.bV 4V f.bV 4.37V 8.9V ",
  "6.27V 8.1dV 2.bV 4.1V e.8V 27.157V 8.dV 2.cV 3.aV 3.38V 1V 4.fV 2.bV 4.9V 7.92V 1.5bV ",
  "0.9D1fbc0 0V 405.a6dfV 20.111dV 2.168dV 2.1d30V f.26dV 9a2D2a9c3 0D2a9c9 0D2a9c1 0Df6e1 ",
  "0D2a8a4 0D2a857 0D2a84b 0D2a805 0D2a78e 0D2a770 0D2a723 0D2a73c 0D2c36e 0Df1d3 0D2a6c1 ",
  "0D2a6bb 0D2a6ac 0D2a69a 0Df2f6 0D2c35a 0D2a6ad 0D2a688 0Df2cb 0D2a680 0D2a674 0D2a94d ",
  "0D2a66e 0D2a666 0D663d 0D2a628 0D2a61b 0D2c340 0D2a5e5 0D2a5db 0D2a5b0 0D2a5ac 0D2c30f ",
  "0D2a55e 0D2a55d 0D2a543 0D2a52e 0.1D2a524 0D2a514 0D2a4e3 0D2a4dc 0D2a4d4 0D2a4bc 0D2a4b3 ",
  "0.2C537f 0Dee08 0D287c5 0D2a46c 0D2a458 0Decd5 0D2a44e 0D2a449 0D2a435 0D2a39e 0D2a405 ",
  "0D2a3f6 0D2a3d7 0D2a39e 0D2a34b 0D2a332 0D2a2f0 0D2a2e1 0.1C5584 0D2a2ae 0D2a29d 0D2a296 ",
  "0D2a288 0D2a135 0D2a246 0D2a136 0D2a1fd 0D2a1db 0D2a649 0D29f63 0D2a084 0D2a05f 0D2a047 ",
  "0D2a0ca 0D2a024 0D2a026 0D29fac 0De375 0D29f68 0D29f64 0D29f56 0D29f43 0D29f3c 0D29efd ",
  "0De1b8 0De177 0D29e76 0D29e48 0D29e3d 0D29e8d 0D29e00 0D2c179 0D2c16c 0D29d61 0.1C5b3e ",
  "0Ddea4 0D29caa 0D29c96 0D29c88 0D29c7d 0Ddd59 0D29c73 0D29c6d 0D29921 0D29c53 0D2c0f5 ",
  "0D29c17 0D29c0a 0D29bb9 0D29bed 0Dda97 0D29b39 0Dda97 0D29b10 0D29b14 0D29b04 0.1D29aa0 ",
  "0D2c054 0D29a87 0D29a5d 0D29a49 0D29a1e 0D2c026 0Dd706 0D2c00e 0D299db 0D299d9 0D299d7 ",
  "0D299c4 0D54fd 0D29992 0.1C22331 0D27692 0.1C5f22 0D2bfcf 0Dc5df 0D96be 0D29937 0D2992f ",
  "0D2bfb8 0D29902 0D298d0 0D298c7 0D298a6 0D2981f 0D2bf67 0D2bf86 0D2980f 0Dd1d0 0D297de ",
  "0D2975e 0D2975b 0D2975a 0D2975d 0D29730 0D2971d 0D296fa 0D29709 0D296ff 0D296d1 0D296be ",
  "0D296bb 0D296a2 0D29698 0D29657 0D29604 0D295e2 0D29567 0Dcdac 0D2957c 0D295be 0D29553 ",
  "0D29539 0D294d9 0Dcccd 0D2949d 0D294fb 0D29518 0D2be94 0D2945a 0D29446 0D29428 0D2944f ",
  "0D2be5b 0D29379 0D2935d 0Dc8c0 0D292e8 0D291d4 0D29284 0D2bdb5 0D2923e 0D2bdc8 0D2bded ",
  "0D2a740 0D2a73e 0D291d4 0D29239 0D27829 0D2b4fe 0D291c1 0D291be 0D291b9 0D2917d 0D29189 ",
  "0Dc51a 0D2bd95 0D290e5 0D2915b 0D2908f 0D2905d 0Dc476 0D29056 0D290c6 0D28fd2 0D2bd4a ",
  "0D28fa6 0D28f46 0D28f00 0D28e43 0Dc249 0D28e12 0D2bcd6 0D28dce 0Dc049 0D28d9d 0D2bca4 ",
  "0D28d81 0D28d55 0.1D28d3b 0Dbe6a 0Ddbed 0Dbdff 0D28cac 0Dbc3f 0D28c3d 0D28c30 0D28c97 ",
  "0D28be9 0D28bc2 0D28b8a 0D28bc1 0D28b9a 0D28b8c 0D28b80 0Dbbe8 0D28bd3 0D28ad9 0D28a9b ",
  "0D2bbd7 0D28a40 0D28a45 0Dba3c 0D28b15 0D289a1 0Db9b2 0Db983 0D2894c 0D288da 0D288f6 ",
  "0D288fa 0D2bb80 0D288cd 0D2889b 0D288a2 0D2886d 0Df3f6 0D287d7 0Db6ba 0D28782 0Db574 ",
  "0D286f8 0D286ec 0D286d2 0Db31b 0D286a4 0D28690 0Db1f1 0Db113 0D285ae 0D2859e 0D2ba7e ",
  "0D28586 0.1C3eb8 0D284e7 0D284d3 0D284bf 0D284ac 0D28468 0D2ba18 0D28410 0Dacff 0D283f8 ",
  "0Daca5 0D283c8 0Dd79a 0D2832a 0Da99a 0Da984 0Da8f9 0D2b942 0D2b937 0D2824c 0Da84e 0Da850 ",
  "0Da82a 0Da811 0D28227 0.1C771f 0D281fe 0D2b910 0D281bf 0D2b905 0D2b8b6 0Da530 0D28100 ",
  "0D280c3 0D28084 0D2b86e 0Da32c 0D27ffd 0Da2ba 0Da290 0D27fc7 0D27f6c 0D2b829 0D27f19 ",
  "0D27f10 0D27f0c 0D9fe0 0.1C25aa7 0D27e71 0D2b75e 0D9db6 0D27d9c 0D27d9a 0D2b73d 0D9ce5 ",
  "0D27c94 0D2b6c7 0D27c80 0D27c86 0D27c6a 0D99e5 0D27c09 0D2b66c 0D27ba7 0D27b6d 0D27b2b ",
  "0D2b63d 0D974a 0D972c 0D2b61b 0D969c 0D279fc 0D9639 0D279e3 0D2797f 0D27975 0D94a1 0D9459 ",
  "0D2791d 0D93d6 0D2790f 0Dc621 0D2b5ac 0D278d0 0D27880 0D2b579 0D27847 0D29ed1 0D91e0 0D91d3 ",
  "0Dc5f6 0Dc5ee 0D2778a 0D27788 0D269ef 0D2b523 0D276fe 0D27705 0D276f4 0D2a6df 0D276e2 ",
  "0D276e1 0D276d8 0D276b0 0D8e5b 0D276b3 0D2767c 0D27637 0D275ee 0D27679 0D275e0 0D275b7 ",
  "0D27548 0D2764d 0D275d7 0D275d6 0D275c7 0D8d6e 0D8c3a 0D8cd1 0D2b47c 0D274b7 0D274b6 ",
  "0D27494 0D85e1 0D27448 0D8a81 0D2b451 0D2b44e 0D89ff 0D88df 0D2b447 0D27363 0D27358 0D2734e ",
  "0D2734d 0D2730e 0D27330 0D272ab 0D272d8 0D27242 0D27294 0D27252 0D27238 0D2b3e8 0D271df ",
  "0D271c0 0D2b3c9 0D27163 0D27161 0D835e 0D270ef 0D270e9 0D2b393 0D270cf 0D2c50f 0D811d ",
  "0D8066 0D2b30f 0D2b307 0D26f2f 0D26ee3 0D26e47 0D26d7d 0D7d2b 0D26d29 0D26d14 0D26cbb ",
  "0D26c60 0D7aa9 0Df1d5 0D26c0f 0D26c1f 0D26bec 0Df0ff 0D26b0a 0D26aa7 0D740e 0D73f4 0D2694e ",
  "0D268f2 0D268d3 0D72b7 0D268cb 0D267af 0.1D26711 0D2676e 0D265f2 0D265d7 0D6df3 0D26463 ",
  "0D2b05a 0D26439 0D6c7a 0D2b00c 0D26330 0D29c42 0D262d2 0D68b1 0D67dd 0D2af8a 0D2af83 ",
  "0D2621a 0D65f1 0D2af4a 0D6567 0.1C980b 0D261d7 0D644b 0D26120 0D2aed0 0D260db 0D2605e ",
  "0D26044 0D26009 0D2ae3a 0D5ed9 0D25ef8 0D25dcb 0D25d0f 0D2ad3f 0D2ad21 0D25ca8 0D5942 ",
  "0D2ad19 0D590d 0D5805 0D5783 0D25b5a 0D2acc0 0D25b1e 0D25b1a 0D25b14 0D25b0b 0D25b05 ",
  "0D25ae1 0D541d 5e2.134aV 5.2129V acc86.efI "]

def mappingRanges : List RangeText.Entry :=
  RangeText.read mappingLines

end Idna

end FederationTrust
