import FederationTrust.Idna.RangeText

/-!
# Properties of characters in domain names

The bidirectional class, the joining type, the canonical combining class and the
general category Mark of the characters that a domain name may hold. What a table
says of other characters has no meaning.

The bidirectional classes are `R`, `A` for Arabic letters, `N` for Arabic numbers, `E`
for European numbers, `S` and `C` for separators, `T` for terminators, `M` for
nonspacing marks, `B` for boundary neutrals, `O` for other neutrals and `W` for those
that no rule allows; a character in no range is of the class L. The joining types are
`T`, `D`, `R`, `L` and `C`. A combining class follows the letter `K`; a character in no
range is of the class 0.
-/

namespace FederationTrust

namespace Idna

def bidiLines : List String := [
  "0.8B 0W 0W 0W 0W 0W 0.dB 0.2W 0W 0W 0.1O 0.2T 0.4O 0S 0C 0S 0.1C 0.9E 0C 0.5O 1a.5O 1a.3O ",
  "0B 21O 0.3T 0.8O 1.1T 4.21O 1fO 1c1.1O 7.dO 2.1bO 1.10O 0.6fM 5O 80O 8c.6M 100.4O 0T 1.2cM ",
  "0R 0M 0R 0.1M 0R 0.1M 0R 0M 8.24R 11.1O 0A 0.1T 0A 0C 0A 0.1O 0.aM 0.2fA 0.14M 0.9N 0T 0.1N ",
  "0.2A 0M 0.64A 0.6M 1O 0.5M 0.1A 0.1M 0O 0.3M 0.1A 0.9E 0.16A 0M 0.1dA 0.1aM 2.58A 0.aM 0A ",
  "e.2aR 0.8M 0.1R 0.3O 0R 2M 0.17R 0.3M 0R 0.8M 0R 0.2M 0R 0.4M 2.28R 0.2M 2R 1.37A 0.7M ",
  "0.29A 0.38M 37M 1M 4.7M 4M 3.6M a.1M 1dM 3aM 4.3M 8M 14.1M e.1T 7T 2.4M 39M 4.10M 1e.1M 3M ",
  "b.1M 39M 4.7M 4M 14.1M dT 8.7M 3aM 2M 1.3M 8.9M b.1M 1eM 3dM cM 25.5O 0T 0O 5M 3M 37M 1.2M ",
  "5.10M b.1M 14.6O 2M 3aM f.1M 14.1M 1c.1M 39.1M 4.3M 8M 14.1M 1dM 48M 7.4M 5aM 2.6M 4T 7.7M ",
  "62M 2.8M b.6M 49.1M 1bM 1M 1M 0.3O 33.dM 1.4M 1.1M 5.2fM 9M 66.3M 1.5M 1.1M 2.1M 19.1M 4.2M ",
  "10.3M dM 2.1M 6M fM 2bf.2M 30.9O 66O 29a.1O 75.2M 1d.1M 1e.1M 1e.1M 43.6M 8M 2.aM 7T 1M ",
  "12.1aO 7a.1M 22M 76.2M 4.1M 9M 6.2M 4.5O 98.21O 17.1M 2M 3aM 1.8M 1M 2.7M 6.cM 30.1eM 31.3M ",
  "30M 1.4M 1M 5M 28.8M c.1M 20.3M 2.1M 1.2M 38M 1.1M 3M 1.2M 3a.7M 2.1M 98.2M 1.cM 1.6M 4M 6M ",
  "3.1M c6.3fM 20c.1B 2.17O 8.2T 2.eO 0C 0.19O 41.21T e.20M 13.25O 4T b.13O 3c.87O 0S 0T ",
  "0.121O 45.19O 1.90O 19.26bO 1.152O 100.295O 1.68O e5.5O 4.2M 7.6O 7fM 60.1fM 0.204O 3.18O ",
  "9.3M 2O 6O 5.2O 59.1M 5O 5aO c4.23O 1bdc.3fO 5690.36O 146.2O 5f.3M 0O 0.9M 0.1O 1e.1M 50.1M ",
  "e.21O 66O 79M 3M 4M 19.1M 1.3O 0M b.1T 3a.3O 4c.1M 1a.11M dM 26.7M 19.aM 2e.2M 30M 2.3M ",
  "2.1M 27M 43.5M 2.1M 2.1M cM 8M 2fM 33M 1.2M 2.1M 5.1M 1M 2a.1M 8M 73.1O 79M 2M 4M 4f30M ",
  "93.20A 16b.11O 40.3eA 0.30O 20.fM 15.1O 2cA 28dO 3e.4cO 3.10O 5cM e2M 0.1aE 7a.4M 485.11bR ",
  "3O 0.e0R 0.eM 0.25R 2.7M 0.a4R 0.1M 4.4aR 3.6O 0.1bfR 0.23A 0.3M 8.9N 6.4fR d0.1eN 1.29R ",
  "1.1M 0.4R 10.3aA 0.2M 0.27R 8.15A 0.aM 0.8A 16.11R 0.3M 0.70R aM 36.eM b.13O aM 2.1M a.2M ",
  "31.3M 2.1M 7M 3d.2M 24.4M 1.7M 3eM c.1M 34.8M a.3M 2M 5f.2M 2M 1.1M 6M 2M 9dM 3.7M 15.1M ",
  "39.1M 3M 25.eM c3.7M 2.2M 1M 17M 54.5M 1M 4.1M 1.1M ee.3M 6.1M 1.1M 1b.1M 55.7M 2M 1.1M ",
  "1f.cO 3eM 1M 2.5M 1M 65.2M 2.3M 1.4M 103.8M 1.1M 100.1M 1M 4M 90.7M 4M 20.5M 2.1M 28.5M ",
  "2.3M 8M 9.5M 2.2M 2e.cM 1.1M 196.dM 54.15M 2.6M 1.1M 1.1M 7a.14M 1M 48.1M 3M 1M 15b.1M b.1M ",
  "34.4M 5M 1M 92.7O 0.3T 0.10O 144eM 6.eM 369a.4M 3b.6M 418M 3f.3M 4fO 1M 4cb8.1M 1261.46M ",
  "220.2M 11.7M 2.6M 1e.3M 3b.58O 0.2M 0O ba.56O 6a9.36M 4.31M 8M eM 16.14M 550.8fM a0.6M 177M ",
  "3d.3M fT 1ec.3M 310.cfR 0.6M 4b.21R 0.6M 0.14R 311.ccA 1b2.23fO 3d.2O 3dO b2.477O 4.9aO ",
  "4.136O 4e.153O c.28O 7.2dO 1.6O 8.dO 4.8O 7.daO "]

def joiningLines : List String := [
  "300.6fT 113.6T 107.2cT 1T 1.1T 1.1T 1T 48.aT 5D 1.3R 0D 0R 0D 0R 0.4D 0.3R 0.cD 0C 0.6D 0R ",
  "0.1D 0.14T e.1D 0T 0.2R 5.eD 0.11R 0.25D 0R 0.1D 0.8R 0D 0R 0D 0R 0.1D 0.1R 1R 0.6T 2.5T ",
  "2.1T 1.3T 0.1R a.2D 2D 10R 0T 0.2D 0.4R 0.3D 0R 0.8D 0R 0D 0R 0D 0R 0.1D 0R 0.1aT 2R 0.aD ",
  "0.2R 0.eD 0.1R 0.3D 0R 0D 0.1R 0.2D 0.1R 0.5D 26.aT 19.20D 0.8T 6C 2T 18.3T 1.8T 1.2T 1.4T ",
  "12R 0.4D 0.1R 0D 0R 0.9D 0R 0D 0.2R 0.2T 4D 1.3D 1R 0D 0.19R 0.2C 0D 2.4D 0R 0D 7.8T 0.9D ",
  "0.2R 1R 0.1D 0.1R 0.5D 0R 0.eD 1.38T 37T 1T 4.7T 4T 3.6T a.1T 1dT 3aT 4.3T 8T 14.1T 1a.4T ",
  "39T 4.10T 1e.1T 3T b.1T 39T 4.7T 4T 14.1T 16.7T 3aT 2T 1.3T 8.9T b.1T 1eT 3dT cT 32T 3T 37T ",
  "1.2T 5.10T b.1T 1dT 3aT 2T 6T 5.1T 14.1T 1c.1T 39.1T 4.3T 8T 14.1T 1dT 48T 7.4T 5aT 2.6T ",
  "c.7T 62T 2.8T b.6T 49.1T 1bT 1T 1T 37.dT 1.4T 1.1T 5.2fT 9T 66.3T 1.5T 1.1T 2.1T 19.1T 4.2T ",
  "10.3T dT 2.1T 6T fT 2bf.2T 3b2.2T 1d.1T 1e.1T 1e.1T 43.6T 8T 2.aT 9T 29D 2C 15.58D c.1T ",
  "0.21D 0T 0D 75.2T 4.1T 9T 6.2T db.1T 2T 3aT 1.8T 1T 2.7T 6.cT 30.53T 30T 1.4T 1T 5T 28.8T ",
  "c.1T 20.3T 2.1T 1.2T 38T 1.1T 3T 1.2T 3a.7T 2.1T 98.2T 1.cT 1.6T 4T 6T 3.1T c6.3fT 20dC ",
  "c2.20T bfe.2T 8dT 60.1fT 22a.3T 6b.1T 75d4.3T 1.9T 20.1T 50.1T 110T 3T 4T 19.1T 5T 13.31D ",
  "0L 51.1T 1a.11T dT 26.7T 19.aT 2e.2T 30T 2.3T 2.1T 27T 43.5T 2.1T 2.1T cT 8T 2fT 33T 1.2T ",
  "2.1T 5.1T 1T 2a.1T 8T eeT 2T 4T 4f30T 301.fT 3cdT e2T 95.4T 686.eT 28.7T 80.4D 0R 1R 1.1R ",
  "2L 0.4R 0.3D 0L 0.4D 0R 0.2D 0R 2R 0.1T 4.3D 0R 90D 0R 0D 0.2R 0.2D 0R 0.1D 0R 0D 0.1R 0D ",
  "0R 17.3R 0.1D 151L 0.20D 0R 0D 0.3T 41.4T 13d.1T 15R 0.1D 1.1D 32.5T 30.2D 0R 0.10D 1.aT ",
  "0.2D 0R 1b.3D 0.1R 0.bD 0.3T 2aD 1.1D 0.2R 1D 0.1R 0.1D 0R 0.1D 1D 0.1R 0D 4R 0D 0L 35T ",
  "36.eT 29T 2.1T a.2T 31.3T 2.1T 7T 3d.2T 24.4T 1.7T 3eT c.1T 34.8T a.3T 2T 5f.2T 2T 1.1T 6T ",
  "2T 9dT 3.7T 15.1T 39.1T 3T 25.eT 46.5T dT 1T 1T e.1T 55.7T 2.2T 1T 17T 54.5T 1T 4.1T 1.1T ",
  "ee.3T 6.1T 1.1T 1b.1T 55.7T 2T 1.1T 6aT 1T 2.5T 1T 65T 1T 2.3T 1.4T 103.8T 1.1T 100.1T 1T ",
  "4T 90.7T 4T 20.9T 28.5T 2.3T 8T 9.5T 2.2T 2e.cT 1.1T c6T 1.2T 1T c9.dT 1T 52.15T 2.6T 1.1T ",
  "1.1T 7a.14T 1T 48.1T 3T 1T 15b.1T b.1T 34.4T 5T 1T 17T 14e5T 6.eT 2cc8.bT 3.2T 9c0.4T 3b.6T ",
  "418T 3f.3T 51T 4cb8.1T 1261.46T 220.2T 11.7T 2.6T 1e.3T 94.2T 7bb.36T 4.31T 8T eT 16.14T ",
  "550.8fT a0.6T 177T 3d.3T 1fc.3T fe.1T f3T 2T 7.1T 5T 1da.6T 4b.21D 0.7T "]

def combiningLines : List String := [
  "300.14Ke6 0Ke8 0.3Kdc 0Ke8 0Kd8 0.4Kdc 0.1Kca 0.3Kdc 0.1Kca 0.aKdc 0.4K1 0.3Kdc 0.9Ke6 ",
  "0.2Kdc 0.2Ke6 0.1Kdc 1.2Ke6 0.3Kdc 0Ke6 0Ke8 0.1Kdc 0Ke6 0Ke9 0.1Kea 0Ke9 0.1Kea 0Ke9 ",
  "0.cKe6 113.4Ke6 109Kdc 0.3Ke6 0Kdc 0.2Ke6 0Kde 0Kdc 0.5Ke6 0.5Kdc 0.1Ke6 0Kdc 0.1Ke6 0Kde ",
  "0Ke4 0Ke6 0Ka 0Kb 0Kc 0Kd 0Ke 0Kf 0K10 0K11 0K12 0.1K13 0K14 0K15 0K16 1K17 1K18 0K19 1Ke6 ",
  "0Kdc 1K12 48.7Ke6 0K1e 0K1f 0K20 30K1b 0K1c 0K1d 0K1e 0K1f 0K20 0K21 0K22 0.1Ke6 0.1Kdc ",
  "0.4Ke6 0Kdc 0.1Ke6 0Kdc 10K23 65.6Ke6 2.3Ke6 0Kdc 0Ke6 2.1Ke6 1Kdc 0.1Ke6 0Kdc 23K24 1eKe6 ",
  "0Kdc 0.1Ke6 0Kdc 0.1Ke6 0.2Kdc 0Ke6 0.1Kdc 0Ke6 0Kdc 0.2Ke6 0Kdc 0Ke6 0Kdc 0Ke6 0Kdc 0Ke6 ",
  "0Kdc 0.1Ke6 a0.6Ke6 0Kdc 0Ke6 9Kdc 18.3Ke6 1.8Ke6 1.2Ke6 1.4Ke6 2b.2Kdc 3b.1Ke6 0.2Kdc ",
  "0.3Ke6 2a.4Ke6 0.4Kdc 0.dKe6 1Kdc 0.1Ke6 0Kdc 0.1Ke6 0Kdc 0.2Ke6 0.2Kdc 0K1b 0K1c 0K1d ",
  "0.2Ke6 0Kdc 0.1Ke6 0.1Kdc 0.4Ke6 3cK7 10K9 3Ke6 0Kdc 0.1Ke6 67K7 10K9 30Ke6 3dK7 10K9 6eK7 ",
  "10K9 6eK7 10K9 7fK9 6eK7 10K9 7K54 0K5b 65K7 10K9 6d.1K9 10K9 7cK9 6d.1K67 0K9 d.3K6b ",
  "6c.1K76 0K9 d.3K7a 4c.1Kdc 1bKdc 1Kdc 1Kd8 37K81 0K82 1K84 5.3K82 2K82 1.1Ke6 0K9 1.1Ke6 ",
  "3eKdc 70K7 1.1K9 52Kdc 2cf.2Ke6 3b4.1K9 1eK9 9dK9 aKe6 cbKe4 8fKde 0Ke6 0Kdc dbKe6 0Kdc ",
  "47K9 14.7Ke6 2Kdc 30.4Ke6 0.5Kdc 0.1Ke6 0Kdc 1.1Kdc 0.1Ke6 0.1Kdc 0.4Ke6 0Kdc 0.11Ke6 0Kdc ",
  "2.5Ke6 0Kdc 0.3Ke6 0Kea 48K7 fK9 26Ke6 0Kdc 0.6Ke6 36.1K9 3aK7 b.1K9 43K7 98.2Ke6 1K1 ",
  "0.4Kdc 0.1Ke6 0.3Kdc 0Ke6 1.6K1 4Kdc 6Ke6 3.1Ke6 c6.1Ke6 0Kdc 0.6Ke6 0Kdc 0.1Ke6 0Kea 0Kd6 ",
  "0Kdc 0Kca 0.24Ke6 0Ke8 0.1Ke4 0Kdc 0Kda 0Ke6 0Ke9 0Kdc 0Ke6 0Kdc 2d0.1Ke6 0.1K1 0.3Ke6 ",
  "0.2K1 0.1Ke6 4Ke6 3.1K1 0Ke6 0Kdc 0Ke6 0.1K1 0.3Kdc 0Ke6 bfe.2Ke6 8dK9 60.1fKe6 22aKda 0Ke4 ",
  "0Ke8 0Kde 0.1Ke0 69.1K8 75d4Ke6 4.9Ke6 20.1Ke6 50.1Ke6 114K9 25K9 97K9 1b.11Ke6 39.2Kdc ",
  "25K9 5fK7 cK9 efKe6 1.1Ke6 0Kdc 2.1Ke6 5.1Ke6 1Ke6 34K9 f6K9 4f30K1a 301.6Ke6 0.6Kdc 0.1Ke6 ",
  "3cdKdc e2Kdc 95.4Ke6 692Kdc 1Ke6 28Ke6 0K1 0Kdc 4K9 a5Ke6 0Kdc 23d.3Ke6 41.4Ke6 13d.1Ke6 ",
  "4d.1Kdc 1.2Kdc 46.1Kdc 0.2Ke6 0Kdc 0Ke6 0.3Kdc 31Ke6 0Kdc 0Ke6 0Kdc c0K9 29K9 eK9 39K9 0K7 ",
  "45.2Ke6 30.1K9 3eK7 4cK9 9K7 6aK9 0K7 b2K7 0K9 50.1K7 10K9 18.eKe6 59.2K9 71K9 3K7 17Ke6 ",
  "63K9 0K7 fbK9 0K7 7eK9 76K9 0K7 73K9 10dK9 0K7 102.1K9 4K7 9cK9 53K9 12K9 51K9 1a5K9 102K7 ",
  "1.1K9 51K9 1a9.1K9 41ecK9 9c0.4K1 3b.6Ke6 4b9.1K6 4cacK1 14c6.1Kd8 0.2K1 3Ke2 0.4Kd8 8.7Kdc ",
  "2.4Ke6 0.1Kdc 1e.3Ke6 94.2Ke6 dbb.8fKe6 a0.6Ke6 177Ke6 3d.3Ke6 1fc.1Ke8 0Kdc 0Ke6 feKe6 ",
  "0Kdc f3Ke6 2Ke6 7.1Ke6 5Ke6 1da.6Kdc 6d.5Ke6 0K7 "]

def markLines : List String := [
  "300.6fM 113.6M 107.2cM 1M 1.1M 1.1M 1M 48.aM 30.14M 10M 65.6M 2.5M 2.1M 1.3M 23M 1e.1aM ",
  "5b.aM 3a.8M 9M 18.3M 1.8M 1.2M 1.4M 2b.2M 3b.8M 2a.39M 36.2M 1.11M 1.6M a.1M 1d.2M 38M 1.fM ",
  "9M a.1M 1a.5M 38.15M 1e.1M 3M b.2M 38M 1.fM 14.1M 16.9M 38M 1.19M a.1M 1eM 3b.fM 9M 28.4M ",
  "37M 1.18M b.1M 1d.2M 38M 1.18M b.1M f.10M 37.1M 1.fM 9M a.1M 1d.2M 46.15M 12.1M 3dM 2.6M ",
  "c.7M 62M 2.8M b.6M 49.1M 1bM 1M 1M 4.1M 31.13M 1.1M 5.2fM 9M 64.13M 17.3M 4.2M 1.2M 2.6M ",
  "3.3M d.bM 1M a.3M 2bf.2M 3b2.3M 1c.2M 1d.1M 1e.1M 42.1dM 9M a7.1M 22M 76.1bM db.4M 39.2aM ",
  "30.54M 2f.10M 26.8M c.2M 1e.cM 38.dM 30.13M 98.2M 1.14M 4M 6M 2.2M c6.3fM 2d0.20M bfe.2M ",
  "8dM 60.1fM 22a.5M 69.1M 75d4.3M 1.9M 20.1M 50.1M 110M 3M 4M 17.4M 4M 53.1M 32.11M 1a.11M dM ",
  "26.7M 19.cM 2c.3M 2f.dM 24M 43.dM cM 8.1M 2d.2M 32M 1.2M 2.1M 5.1M 1M 29.4M 5.1M ec.7M 1.1M ",
  "4f30M 301.fM 3cdM e2M 95.4M 686.eM 28.7M a5.1M 23d.3M 41.4M 13d.1M 4d.5M 46.aM 31.3M 7a.2M ",
  "35.eM 29M 2.1M a.3M 2d.aM 7M 3d.2M 24.dM 10.1M 2cM c.2M 30.dM 8.3M 1.1M 5c.bM 6M 2M 9d.bM ",
  "15.3M 37.1M 1.fM 9M a.12M 43.18M 1M e.1M 52.11M 17M 51.13M eb.11M 1b.1M 52.10M 6a.cM 65.eM ",
  "100.eM f5.eM 1M 1.1M 8d.fM 3M 1c.9M 28.6M 1.3M 8M 9.aM 2e.fM c6.7M c7.10M 52.24M 7a.14M 1M ",
  "42.dM 15b.3M 9.1M 1M 30.eM 17M 14e5M 6.eM 2cc8.11M 9c0.4M 3b.6M 418M 1.41M 51.dM 4cab.1M ",
  "1261.46M 21e.4M 3.15M 2.6M 1e.3M 94.2M 7bb.36M 4.31M 8M eM 16.14M 550.8fM a0.6M 177M 3d.3M ",
  "1fc.3M fe.1M f3M 2M 7.1M 5M 1da.6M 6d.6M "]

def bidiRanges : List RangeText.Entry :=
  RangeText.read bidiLines

def joiningRanges : List RangeText.Entry :=
  RangeText.read joiningLines

def combiningRanges : List RangeText.Entry :=
  RangeText.read combiningLines

def markRanges : List RangeText.Entry :=
  RangeText.read markLines

end Idna

end FederationTrust
